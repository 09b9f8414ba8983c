import HtmlNesting.Registry

/-!
# Rules for the page

The document element and its two parts, the metadata of the head, and the sections of the body. The
page is broken without its structure, so findings about it are errors.
-/

namespace HtmlNesting.Rulebook

/-- The parts of a page: a head followed by a body. -/
def pageParts : Ordered where
  segments := [
    { tags := [.head], min := 1, max := some 1 },
    { tags := [.body], min := 1, max := some 1 }]
  severity := .error

/-- The document element. -/
def html : RuleEntry :=
  .of .html [.require .documentRoot .error] (some (.plain (.ordered pageParts)))

/-- The head: metadata. Its title and its base report their own duplicates. -/
def head : RuleEntry :=
  .of .head [.require (.nthChildOf .html 0 []) .error] (some (.ofCategory .metadata))

/-- The body: flow content. -/
def body : RuleEntry :=
  .of .body [.require (.nthChildOf .html 1 [.head]) .error] (some (.ofCategory .flow))

/-- A child of the head. -/
def inHead : ContextRule :=
  .parentIs [.head]

/-- A child of the head, or of a fallback for scripts there. -/
def inHeadOrFallback : ContextRule :=
  .parentIs [.head] [.noscript]

/-- The title of the document. -/
def title : RuleEntry :=
  .of .title [inHead, .require .uniqueAmongSiblings .warn] (some (.plain (.textOnly .warn)))

/-- The base of addresses. -/
def base : RuleEntry :=
  .of .base [inHead, .require .uniqueAmongSiblings .warn] (some .void)

/-- A link is metadata, unless it describes an item in the text. -/
def link : RuleEntry :=
  .of .link [
    .byAttribute [(.present "itemprop", [.expected .phrasing])]
      [.alternatives (.expected .metadata) [inHeadOrFallback]]] (some .void)

/-- A piece of metadata; what it says decides where it may stand. An encoding belongs directly into
the head. -/
def metadata : RuleEntry :=
  .of .metaTag [
    .byAttribute [
      (.present "charset", [inHead]),
      (.equals "http-equiv" "content-type", [inHead]),
      (.present "http-equiv", [inHeadOrFallback]),
      (.present "name", [.expected .metadata]),
      (.present "itemprop", [.expected .phrasing])]
      [.expected .metadata]] (some .void)

/-- A style sheet, whose text is not checked. -/
def style : RuleEntry :=
  .of .style [.alternatives (.expected .metadata) [inHeadOrFallback]] none

/-- A section of flow content. -/
def sectioning (tag : Tag) : RuleEntry :=
  .of tag [.expected .flow] (some (.ofCategory .flow))

/-- A heading of phrasing content. -/
def heading (tag : Tag) : RuleEntry :=
  .of tag [.expected .flow] (some (.ofCategory .phrasing))

/-- A header or footer, which is not inside another one. -/
def landmark (tag : Tag) : RuleEntry :=
  .of tag [.expected .flow, .require (.noAncestor [.header, .footer]) .warn]
    (some (.ofCategory .flow))

/-- Contact information, without sections and headings. -/
def address : RuleEntry :=
  .of .address [.expected .flow]
    (some (.plain (.members {
      category := some .flow
      exclude := some {
        tags := [.header, .footer, .address]
        categories := [.heading, .sectioning] } })))

/-- The rules for the document element and its parts. -/
def document : List RuleEntry :=
  [html, head, body]

/-- The rules for metadata. -/
def headMatter : List RuleEntry :=
  [title, base, link, metadata, style]

/-- The rules for sections. -/
def sections : List RuleEntry :=
  [Tag.article, .sectionTag, .nav, .aside].map sectioning ++
    Tag.headings.map heading ++ [landmark .header, landmark .footer, address]

end HtmlNesting.Rulebook
