import BigScript.Text.Casing

/-!
# Reserved words

The words a script cannot use as plain names: statements and their particles, the nouns of
collections, files, services and drawing, and the functions of arithmetic.  A word that Lean
reserves too carries the suffix `Word`.  Words are recognised in any letter case.
-/

namespace BigScript

/-- The reserved words. -/
inductive Keyword where
  | initWord | print | update | get | set | global | asWord | ifWord | orWord | take | wait
  | type | exportWord | use | lab | attach | stop | warp | run | start | build | pack | unpack
  | command | loop | startLoop | stopLoop | keep | doing | returnWord | addrun | andrun | endWord
  | any | bug | found | reset | len | bigTick | bigDelta | event | push | pop | step | towards
  | speed | background | ask | input | setting | task | solve
  | openWord | book | write | delete | copy | create | folder | file | to | add | list | fromWord
  | of | sort | insert | merge | check | here | cut | atWord | on | remove | keys | value | map
  | json | split | byWord | replace | withWord | forWord | inWord | look
  | bignet | netloop | proxy | userAgent | header | post | server | sbig | reply | body | control
  | workers | limit | per | mins | ssl | record | point | note
  | sql | dbig | bit | aes | code | decode | encrypt | decrypt | key | iv | nebc | demon | bmath
  | markdown | pyBig
  | luck | random | email | uuid
  | guy | view | refresh | draw | rectangle | rounded | circle | triangle | line | path | button
  | move | curve | close | fill | stroke | text | font | image | asset | load | style | window
  | title | click | play | sound | volume | beep | hover | press | drag | mouse | resize | frame
  | bind | state | padding | spacing | row | column | scroll | area | buttonClick | keyDown
  | rotate | scale | alpha | tint | layer | clip | tag | blueprint | pin | newWord | autoLayering
  | remainder | sqrt | sin | cos | tan | abs | floor | ceil | round | log | minimum | maximum
  | pi | euler | clean | bigcap | lower | smaller | bigger | between | positive
deriving DecidableEq, Repr

namespace Keyword

/-- The word as it is written in lower case. -/
def spelling : Keyword → String
  | .initWord => "init"
  | .print => "print"
  | .update => "update"
  | .get => "get"
  | .set => "set"
  | .global => "global"
  | .asWord => "as"
  | .ifWord => "if"
  | .orWord => "or"
  | .take => "take"
  | .wait => "wait"
  | .type => "type"
  | .exportWord => "export"
  | .use => "use"
  | .lab => "lab"
  | .attach => "attach"
  | .stop => "stop"
  | .warp => "warp"
  | .run => "run"
  | .start => "start"
  | .build => "build"
  | .pack => "pack"
  | .unpack => "unpack"
  | .command => "command"
  | .loop => "loop"
  | .startLoop => "s.loop"
  | .stopLoop => "loop.s"
  | .keep => "keep"
  | .doing => "doing"
  | .returnWord => "return"
  | .addrun => "addrun"
  | .andrun => "andrun"
  | .endWord => "end"
  | .any => "any"
  | .bug => "bug"
  | .found => "found"
  | .reset => "reset"
  | .len => "len"
  | .bigTick => "bigtick"
  | .bigDelta => "bigdelta"
  | .event => "event"
  | .push => "push"
  | .pop => "pop"
  | .step => "step"
  | .towards => "towards"
  | .speed => "speed"
  | .background => "background"
  | .ask => "ask"
  | .input => "input"
  | .setting => "setting"
  | .task => "task"
  | .solve => "solve"
  | .openWord => "open"
  | .book => "book"
  | .write => "write"
  | .delete => "delete"
  | .copy => "copy"
  | .create => "create"
  | .folder => "folder"
  | .file => "file"
  | .to => "to"
  | .add => "add"
  | .list => "list"
  | .fromWord => "from"
  | .of => "of"
  | .sort => "sort"
  | .insert => "insert"
  | .merge => "merge"
  | .check => "check"
  | .here => "here"
  | .cut => "cut"
  | .atWord => "at"
  | .on => "on"
  | .remove => "remove"
  | .keys => "keys"
  | .value => "value"
  | .map => "map"
  | .json => "json"
  | .split => "split"
  | .byWord => "by"
  | .replace => "replace"
  | .withWord => "with"
  | .forWord => "for"
  | .inWord => "in"
  | .look => "look"
  | .bignet => "bignet"
  | .netloop => "netloop"
  | .proxy => "proxy"
  | .userAgent => "user-agent"
  | .header => "header"
  | .post => "post"
  | .server => "server"
  | .sbig => "sbig"
  | .reply => "reply"
  | .body => "body"
  | .control => "control"
  | .workers => "workers"
  | .limit => "limit"
  | .per => "per"
  | .mins => "mins"
  | .ssl => "ssl"
  | .record => "record"
  | .point => "point"
  | .note => "note"
  | .sql => "sql"
  | .dbig => "dbig"
  | .bit => "bit"
  | .aes => "aes"
  | .code => "code"
  | .decode => "decode"
  | .encrypt => "encrypt"
  | .decrypt => "decrypt"
  | .key => "key"
  | .iv => "iv"
  | .nebc => "nebc"
  | .demon => "demon"
  | .bmath => "bmath"
  | .markdown => "markdown"
  | .pyBig => "pybig"
  | .luck => "luck"
  | .random => "random"
  | .email => "email"
  | .uuid => "uuid"
  | .guy => "guy"
  | .view => "view"
  | .refresh => "refresh"
  | .draw => "draw"
  | .rectangle => "rectangle"
  | .rounded => "rounded"
  | .circle => "circle"
  | .triangle => "triangle"
  | .line => "line"
  | .path => "path"
  | .button => "button"
  | .move => "move"
  | .curve => "curve"
  | .close => "close"
  | .fill => "fill"
  | .stroke => "stroke"
  | .text => "text"
  | .font => "font"
  | .image => "image"
  | .asset => "asset"
  | .load => "load"
  | .style => "style"
  | .window => "window"
  | .title => "title"
  | .click => "click"
  | .play => "play"
  | .sound => "sound"
  | .volume => "volume"
  | .beep => "beep"
  | .hover => "hover"
  | .press => "press"
  | .drag => "drag"
  | .mouse => "mouse"
  | .resize => "resize"
  | .frame => "frame"
  | .bind => "bind"
  | .state => "state"
  | .padding => "padding"
  | .spacing => "spacing"
  | .row => "row"
  | .column => "column"
  | .scroll => "scroll"
  | .area => "area"
  | .buttonClick => "btnclick"
  | .keyDown => "keydown"
  | .rotate => "rotate"
  | .scale => "scale"
  | .alpha => "alpha"
  | .tint => "tint"
  | .layer => "layer"
  | .clip => "clip"
  | .tag => "tag"
  | .blueprint => "blueprint"
  | .pin => "pin"
  | .newWord => "new"
  | .autoLayering => "autolayering"
  | .remainder => "remainder"
  | .sqrt => "sqrt"
  | .sin => "sin"
  | .cos => "cos"
  | .tan => "tan"
  | .abs => "abs"
  | .floor => "floor"
  | .ceil => "ceil"
  | .round => "round"
  | .log => "log"
  | .minimum => "minimum"
  | .maximum => "maximum"
  | .pi => "pi"
  | .euler => "euler"
  | .clean => "clean"
  | .bigcap => "bigcap"
  | .lower => "lower"
  | .smaller => "smaller"
  | .bigger => "bigger"
  | .between => "between"
  | .positive => "positive"

/-- Every reserved word once. -/
def all : List Keyword := [
  .initWord, .print, .update, .get, .set, .global, .asWord, .ifWord, .orWord, .take, .wait,
  .type, .exportWord, .use, .lab, .attach, .stop, .warp, .run, .start, .build, .pack, .unpack,
  .command, .loop, .startLoop, .stopLoop, .keep, .doing, .returnWord, .addrun, .andrun, .endWord,
  .any, .bug, .found, .reset, .len, .bigTick, .bigDelta, .event, .push, .pop, .step, .towards,
  .speed, .background, .ask, .input, .setting, .task, .solve, .openWord, .book, .write, .delete,
  .copy, .create, .folder, .file, .to, .add, .list, .fromWord, .of, .sort, .insert, .merge,
  .check, .here, .cut, .atWord, .on, .remove, .keys, .value, .map, .json, .split, .byWord,
  .replace, .withWord, .forWord, .inWord, .look, .bignet, .netloop, .proxy, .userAgent, .header,
  .post, .server, .sbig, .reply, .body, .control, .workers, .limit, .per, .mins, .ssl, .record,
  .point, .note, .sql, .dbig, .bit, .aes, .code, .decode, .encrypt, .decrypt, .key, .iv, .nebc,
  .demon, .bmath, .markdown, .pyBig, .luck, .random, .email, .uuid, .guy, .view, .refresh, .draw,
  .rectangle, .rounded, .circle, .triangle, .line, .path, .button, .move, .curve, .close, .fill,
  .stroke, .text, .font, .image, .asset, .load, .style, .window, .title, .click, .play, .sound,
  .volume, .beep, .hover, .press, .drag, .mouse, .resize, .frame, .bind, .state, .padding,
  .spacing, .row, .column, .scroll, .area, .buttonClick, .keyDown, .rotate, .scale, .alpha,
  .tint, .layer, .clip, .tag, .blueprint, .pin, .newWord, .autoLayering, .remainder, .sqrt, .sin,
  .cos, .tan, .abs, .floor, .ceil, .round, .log, .minimum, .maximum, .pi, .euler, .clean,
  .bigcap, .lower, .smaller, .bigger, .between, .positive]

/-- Shorter spellings of some reserved words. -/
def aliases : List (String × Keyword) := [("s", .solve), ("col", .column)]

/-- Every spelling of a reserved word with the word it stands for. -/
def spellings : List (String × Keyword) :=
  all.map (fun k => (k.spelling, k)) ++ aliases

/-- The reserved word that a lower-case text spells. -/
def spelled? (word : String) : Option Keyword := spellings.lookup word

/-- The reserved word that a text spells in any letter case. -/
def ofText? (word : String) : Option Keyword := spelled? (Text.lower word)

end Keyword
end BigScript
