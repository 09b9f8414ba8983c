import HtmlNesting.Text.Case

/-!
# Tags

The elements that have rules of their own form a closed list. Every other name, be it a custom
element, a foreign element or a slip of the pen, is one and the same `unknown` tag, so that a table
indexed by tags never misses.
-/

namespace HtmlNesting

/-- An element known to the content model, or `unknown` for any other name. -/
inductive Tag where
  | unknown
  | html | head | title | base | link | metaTag | style | body
  | article | sectionTag | nav | aside | h1 | h2 | h3 | h4 | h5 | h6 | header | footer | address
  | p | hr | pre | blockquote | ol | ul | li | dl | dt | dd | figure | figcaption | div | main
  | a | em | strong | small | s | cite | q | dfn | abbr | data | time | code | var | samp | kbd
  | sub | sup | i | b | u | mark | ruby | rb | rt | rtc | rp | bdi | bdo | span | br | wbr
  | ins | del
  | img | iframe | embed | object | param | video | audio | source | track | map | area | canvas
  | svg | math
  | table | caption | colgroup | col | tbody | thead | tfoot | tr | td | th
  | form | fieldset | legend | label | input | button | select | datalist | optgroup | option
  | textarea | keygen | output | progress | meter
  | details | summary | dialog | menu | script | noscript | template
  deriving DecidableEq, Repr

namespace Tag

/-- The name a tag is written with. The unknown tag has the empty name. -/
def name : Tag → String
  | unknown => ""
  | html => "html"
  | head => "head"
  | title => "title"
  | base => "base"
  | link => "link"
  | metaTag => "meta"
  | style => "style"
  | body => "body"
  | article => "article"
  | sectionTag => "section"
  | nav => "nav"
  | aside => "aside"
  | h1 => "h1"
  | h2 => "h2"
  | h3 => "h3"
  | h4 => "h4"
  | h5 => "h5"
  | h6 => "h6"
  | header => "header"
  | footer => "footer"
  | address => "address"
  | p => "p"
  | hr => "hr"
  | pre => "pre"
  | blockquote => "blockquote"
  | ol => "ol"
  | ul => "ul"
  | li => "li"
  | dl => "dl"
  | dt => "dt"
  | dd => "dd"
  | figure => "figure"
  | figcaption => "figcaption"
  | div => "div"
  | main => "main"
  | a => "a"
  | em => "em"
  | strong => "strong"
  | small => "small"
  | s => "s"
  | cite => "cite"
  | q => "q"
  | dfn => "dfn"
  | abbr => "abbr"
  | data => "data"
  | time => "time"
  | code => "code"
  | var => "var"
  | samp => "samp"
  | kbd => "kbd"
  | sub => "sub"
  | sup => "sup"
  | i => "i"
  | b => "b"
  | u => "u"
  | mark => "mark"
  | ruby => "ruby"
  | rb => "rb"
  | rt => "rt"
  | rtc => "rtc"
  | rp => "rp"
  | bdi => "bdi"
  | bdo => "bdo"
  | span => "span"
  | br => "br"
  | wbr => "wbr"
  | ins => "ins"
  | del => "del"
  | img => "img"
  | iframe => "iframe"
  | embed => "embed"
  | object => "object"
  | param => "param"
  | video => "video"
  | audio => "audio"
  | source => "source"
  | track => "track"
  | map => "map"
  | area => "area"
  | canvas => "canvas"
  | svg => "svg"
  | math => "math"
  | table => "table"
  | caption => "caption"
  | colgroup => "colgroup"
  | col => "col"
  | tbody => "tbody"
  | thead => "thead"
  | tfoot => "tfoot"
  | tr => "tr"
  | td => "td"
  | th => "th"
  | form => "form"
  | fieldset => "fieldset"
  | legend => "legend"
  | label => "label"
  | input => "input"
  | button => "button"
  | select => "select"
  | datalist => "datalist"
  | optgroup => "optgroup"
  | option => "option"
  | textarea => "textarea"
  | keygen => "keygen"
  | output => "output"
  | progress => "progress"
  | meter => "meter"
  | details => "details"
  | summary => "summary"
  | dialog => "dialog"
  | menu => "menu"
  | script => "script"
  | noscript => "noscript"
  | template => "template"

/-- All tags, the unknown one first. -/
def all : List Tag := [
  unknown,
  html, head, title, base, link, metaTag, style, body, article, sectionTag, nav, aside, h1, h2,
  h3, h4, h5, h6, header, footer, address, p, hr, pre, blockquote, ol, ul, li, dl, dt, dd, figure,
  figcaption, div, main, a, em, strong, small, s, cite, q, dfn, abbr, data, time, code, var, samp,
  kbd, sub, sup, i, b, u, mark, ruby, rb, rt, rtc, rp, bdi, bdo, span, br, wbr, ins, del, img,
  iframe, embed, object, param, video, audio, source, track, map, area, canvas, svg, math, table,
  caption, colgroup, col, tbody, thead, tfoot, tr, td, th, form, fieldset, legend, label, input,
  button, select, datalist, optgroup, option, textarea, keygen, output, progress, meter, details,
  summary, dialog, menu, script, noscript, template]

/-- The tag of a name, which is compared in lower case. -/
def ofName (name : String) : Tag :=
  (all.find? fun tag => tag.name == Text.lower name).getD unknown

/-- The six headings. -/
def headings : List Tag := [h1, h2, h3, h4, h5, h6]

/-- The two media elements. -/
def media : List Tag := [audio, video]

end Tag

end HtmlNesting
