import HtmlNesting.Registry

/-!
# Rules for grouping content and tables
-/

namespace HtmlNesting.Rulebook

/-- An element used where flow content is expected. -/
def flowElement (tag : Tag) (content : ContentModel) : RuleEntry :=
  .of tag [.expected .flow] (some content)

/-- Children with some tags, and script-supporting elements among them. -/
def onlyTags (tags : List Tag) : ContentModel :=
  .plain (.members { tags, scriptSupporting := true })

/-- Flow content without sections and headings. -/
def plainFlow : ContentModel :=
  .plain (.members {
    category := some .flow
    exclude := some {
      tags := [.header, .footer]
      categories := [.sectioning, .heading] } })

/-- A list item. -/
def item : RuleEntry :=
  .of .li [.parentIs [.ol, .ul, .menu]] (some (.ofCategory .flow))

/-- A list of terms and descriptions. -/
def descriptions : RuleEntry :=
  flowElement .dl (.plain (.groups { first := .dt, second := .dd }))

/-- A term in a list of descriptions. -/
def term : RuleEntry :=
  .of .dt [.parentIs [.dl]] (some plainFlow)

/-- A description in a list. -/
def description : RuleEntry :=
  .of .dd [.parentIs [.dl]] (some (.ofCategory .flow))

/-- A figure with one caption at most. The caption reports a wrong position itself. -/
def figure : RuleEntry :=
  flowElement .figure (.plain (.members {
    category := some .flow
    tags := [.figcaption]
    limits := .ofList [(.figcaption, 1)] }))

/-- The caption of a figure. -/
def figureCaption : RuleEntry :=
  .of .figcaption [.require (.firstOrLastChildOf .figure) .warn] (some (.ofCategory .flow))

/-- The main content of the page, which is not part of a section. -/
def mainContent : RuleEntry :=
  .of .main [
    .expected .flow,
    .require (.noAncestor [.article, .aside, .footer, .header, .nav]) .warn]
    (some (.ofCategory .flow))

/-- The parts of a table in order. The foot may stand before or after the rows, but only once, and
rows are either grouped or not. -/
def tableParts : Ordered where
  segments := [
    { tags := [.caption], max := some 1 },
    { tags := [.colgroup] },
    { tags := [.thead], max := some 1 },
    { tags := [.tfoot], max := some 1 },
    { tags := [.tbody, .tr] },
    { tags := [.tfoot], max := some 1 }]
  caps := .ofList [(.tfoot, 1)]
  exclusive := [([.tbody], [.tr])]
  scriptSupporting := true

/-- A table. -/
def table : RuleEntry :=
  flowElement .table (.plain (.ordered tableParts))

/-- The caption of a table, without a table inside. -/
def tableCaption : RuleEntry :=
  .of .caption [.parentIs [.table]]
    (some (.plain (.members { category := some .flow, exclude := some { tags := [.table] } })))

/-- A group of columns: a number of them, or each one by itself. -/
def columnGroup : RuleEntry :=
  .of .colgroup [.parentIs [.table]]
    (some (.whenAttribute "span" .void (.plain (.members { tags := [.col, .template] }))))

/-- A column. -/
def column : RuleEntry :=
  .of .col [.parentIs [.colgroup]] (some .void)

/-- A group of rows. -/
def rowGroup (tag : Tag) : RuleEntry :=
  .of tag [.parentIs [.table]] (some (onlyTags [.tr]))

/-- A row. -/
def row : RuleEntry :=
  .of .tr [.parentIs [.table, .thead, .tbody, .tfoot]] (some (onlyTags [.td, .th]))

/-- A cell. -/
def cell : RuleEntry :=
  .of .td [.parentIs [.tr]] (some (.ofCategory .flow))

/-- A cell that heads others. -/
def headerCell : RuleEntry :=
  .of .th [.parentIs [.tr]] (some plainFlow)

/-- The rules for grouping content. -/
def grouping : List RuleEntry := [
  flowElement .p (.ofCategory .phrasing),
  flowElement .hr .void,
  flowElement .pre (.ofCategory .phrasing),
  flowElement .blockquote (.ofCategory .flow),
  flowElement .ol (onlyTags [.li]),
  flowElement .ul (onlyTags [.li]),
  item, descriptions, term, description, figure, figureCaption,
  flowElement .div (.ofCategory .flow),
  mainContent]

/-- The rules for tables. -/
def tables : List RuleEntry := [
  table, tableCaption, columnGroup, column, rowGroup .tbody, rowGroup .thead, rowGroup .tfoot, row,
  cell, headerCell]

end HtmlNesting.Rulebook
