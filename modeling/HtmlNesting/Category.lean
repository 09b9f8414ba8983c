import HtmlNesting.Tag

/-!
# Content categories

A category is what an element can be, or what a slot for children asks for. `members` says which
elements are always of a category; some become so by an attribute, which is a matter of
classification. `accepted` is the wider relation of a slot to what may fill it: a slot for flow
content also takes phrasing content, and so on. The two keywords at the end describe what an element
accepts and never what it is.
-/

namespace HtmlNesting

/-- A content category. -/
inductive Category where
  | flow | phrasing | metadata | sectioning | sectioningRoot | heading | embedded | interactive
  | palpable | formAssociated | scriptSupporting | transparent | nothing
  deriving DecidableEq, Repr

namespace Category

/-- The words for a category in messages and rules. -/
def name : Category → String
  | flow => "flow content"
  | phrasing => "phrasing content"
  | metadata => "metadata content"
  | sectioning => "sectioning content"
  | sectioningRoot => "sectioning root"
  | heading => "heading content"
  | embedded => "embedded content"
  | interactive => "interactive content"
  | palpable => "palpable content"
  | formAssociated => "form-associated element"
  | scriptSupporting => "script-supporting element"
  | transparent => "transparent"
  | nothing => "none"

/-- All categories. -/
def all : List Category := [
  flow, phrasing, metadata, sectioning, sectioningRoot, heading, embedded, interactive, palpable,
  formAssociated, scriptSupporting, transparent, nothing]

/-- The category with a name. -/
def ofName? (name : String) : Option Category :=
  all.find? fun category => category.name == name

/-- Elements that are phrasing content. -/
def phrasingTags : List Tag := [
    .a, .abbr, .area, .audio, .b, .bdi, .bdo, .br, .button, .canvas, .cite, .code, .data,
    .datalist, .del, .dfn, .em, .embed, .i, .iframe, .img, .input, .ins, .kbd, .keygen, .label,
    .map, .mark, .math, .meter, .noscript, .object, .output, .progress, .q, .ruby, .s, .samp,
    .script, .select, .small, .span, .strong, .sub, .sup, .svg, .template, .textarea, .time, .u,
    .var, .video, .wbr]

/-- The elements that belong to a category whatever their attributes. -/
def members : Category → List Tag
  | flow => phrasingTags ++ Tag.headings ++ [
    .address, .article, .aside, .blockquote, .details, .dialog, .div, .dl, .fieldset, .figure,
    .footer, .form, .header, .hr, .main, .menu, .nav, .ol, .p, .pre, .sectionTag, .table, .ul]
  | phrasing => phrasingTags
  | metadata => [
    .base, .link, .metaTag, .noscript, .script, .style, .template, .title]
  | sectioning => [.article, .aside, .nav, .sectionTag]
  | sectioningRoot => [
    .blockquote, .body, .details, .dialog, .fieldset, .figure, .td]
  | heading => Tag.headings
  | embedded => [
    .audio, .canvas, .embed, .iframe, .img, .math, .object, .svg, .video]
  | interactive => [
    .a, .button, .details, .embed, .iframe, .keygen, .label, .select, .textarea]
  | palpable => Tag.headings ++ [
    .a, .abbr, .address, .article, .aside, .b, .bdi, .bdo, .blockquote, .button, .canvas, .cite,
    .code, .data, .details, .dfn, .div, .em, .embed, .fieldset, .figure, .footer, .form,
    .header, .i, .iframe, .img, .ins, .kbd, .keygen, .label, .main, .map, .mark, .math, .meter,
    .nav, .object, .output, .p, .pre, .progress, .q, .ruby, .s, .samp, .sectionTag, .select,
    .small, .span, .strong, .sub, .sup, .svg, .table, .textarea, .time, .u, .var, .video]
  | formAssociated => [
    .button, .fieldset, .img, .input, .keygen, .label, .object, .output, .select, .textarea]
  | scriptSupporting => [.script, .template]
  | transparent => []
  | nothing => []

/-- The categories that may fill a slot that asks for a category. -/
def accepted : Category → List Category
  | flow => [flow, phrasing, heading, sectioning, embedded, interactive]
  | phrasing => [phrasing, embedded]
  | category => [category]

/-- Whether a slot that asks for `slot` takes `wanted`. -/
def accepts (slot wanted : Category) : Bool :=
  slot.accepted.contains wanted

end Category

/-- The categories of an element that it has whatever its attributes. -/
def Tag.categories (tag : Tag) : List Category :=
  Category.all.filter fun category => category.members.contains tag

end HtmlNesting
