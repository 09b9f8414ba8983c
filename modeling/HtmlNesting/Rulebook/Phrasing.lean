import HtmlNesting.Registry

/-!
# Rules for text, edits and embedded content
-/

namespace HtmlNesting.Rulebook

/-- An element used where phrasing content is expected. -/
def phrasingElement (tag : Tag) (content : ContentModel) : RuleEntry :=
  .of tag [.expected .phrasing] (some content)

/-- An element used where embedded content is expected. -/
def embeddedElement (tag : Tag) (content : Option ContentModel) : RuleEntry :=
  .of tag [.expected .embedded] content

/-- Elements for pieces of text. -/
def textTags : List Tag := [
  .em, .strong, .small, .s, .cite, .q, .abbr, .data, .time, .code, .var, .samp, .kbd, .sub, .sup,
  .i, .b, .u, .mark, .bdi, .bdo, .span]

/-- A link to elsewhere, with nothing interactive inside. -/
def anchor : RuleEntry :=
  phrasingElement .a (.transparent { exclude := some { categories := [.interactive] } })

/-- A defined term, with no other one inside. -/
def definition : RuleEntry :=
  phrasingElement .dfn
    (.plain (.members { category := some .phrasing, exclude := some { tags := [.dfn] } }))

/-- Annotated text. How its parts follow one another is not checked. -/
def annotated : List RuleEntry := [
  .of .ruby [.expected .phrasing] none,
  .of .rb [] (some (.ofCategory .phrasing)),
  .of .rt [] (some (.ofCategory .phrasing)),
  .of .rtc [] none,
  .of .rp [] (some (.ofCategory .phrasing))]

/-- The rules for text. -/
def text : List RuleEntry :=
  [anchor] ++ (textTags.map fun tag => phrasingElement tag (.ofCategory .phrasing)) ++
    [definition] ++ annotated ++ [phrasingElement .br .void, phrasingElement .wbr .void]

/-- The rules for edits. -/
def edits : List RuleEntry :=
  [phrasingElement .ins (.transparent {}), phrasingElement .del (.transparent {})]

/-- Sound and pictures: sources unless one is given as an attribute, tracks, and then what may stand
in place of the element. There is no other media element inside. -/
def mediaContent : ContentModel :=
  .whenAttribute "src"
    (.transparent {
      skip := [.track], forbid := [.source], exclude := some { tags := Tag.media } })
    (.transparent { skip := [.source, .track], exclude := some { tags := Tag.media } })

/-- An element that comes before the content of its parent. -/
def leading (tag : Tag) (parents : List Tag) (others : List Tag) : RuleEntry :=
  .of tag [.parentIs parents, .require (.beforeAny others [.flow]) .warn] (some .void)

/-- The rules for embedded content. -/
def embedded : List RuleEntry := [
  embeddedElement .img (some .void),
  embeddedElement .iframe none,
  embeddedElement .embed (some .void),
  embeddedElement .object (some (.transparent { skip := [.param] })),
  leading .param [.object] [],
  embeddedElement .video (some mediaContent),
  embeddedElement .audio (some mediaContent),
  leading .source Tag.media [.track],
  leading .track Tag.media [],
  phrasingElement .map (.transparent {}),
  .of .area [.expected .phrasing, .require (.hasAncestor [.map, .template]) .warn] (some .void)]

end HtmlNesting.Rulebook
