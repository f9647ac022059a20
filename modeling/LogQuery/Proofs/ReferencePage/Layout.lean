/-
A reference page inside a layout table.

Rows and cells are looked for at any depth. So a table around a page has all
rows of the page for its own, and all header cells of the page in its first
row: it lists functions if the page does, and its column is found by counting
through the cells of all tables. What the rows of the page have in that column
(`namesInColumn`) comes first, and then the names that the page has by itself.

So the names are the same only if these strays are the first of them
(`names_inLayout`). A page with two columns does not keep its names.
-/
import LogQuery.Proofs.Html.Nesting
import LogQuery.Proofs.ReferencePage.Names

namespace LogQuery

open Html

-- =============================================================== descendants

namespace Html.Node

variable {names names' : List String} {m c : Node}

mutual

/-- What is inside an element that is found in a node is inside the node. -/
theorem mem_inside_of_found (hc : c ∈ m.inside names') (n : Node)
    (h : m ∈ found names n) : c ∈ n.inside names' := by
  match n with
  | .text .. => cases h
  | .element name children =>
    rw [found, List.mem_append] at h
    rcases h with h | h
    · split at h
      · rwa [List.mem_singleton.1 h] at hc
      · cases h
    · exact mem_among_of_inside hc children h

/-- What is inside an element that is found among nodes is found there. -/
theorem mem_among_of_inside (hc : c ∈ m.inside names') (nodes : List Node)
    (h : m ∈ among names nodes) : c ∈ among names' nodes := by
  match nodes with
  | [] => cases h
  | n :: nodes =>
    rw [among, List.mem_append] at h ⊢
    rcases h with h | h
    · refine .inl ?_
      have hinside := mem_inside_of_found hc n h
      cases n with
      | text chars hidden => cases h
      | element name children =>
        rw [found]
        exact List.mem_append_right _ hinside
    · exact .inr (mem_among_of_inside hc nodes h)

end

end Html.Node

namespace ReferencePage

variable {page : String} {nodes : List Node} {ns : List String}
  {column : Nat}

-- ===================================================================== names

/-- The lists of the tables among nodes that list functions. -/
def lists (nodes : List Node) : List (List String) :=
  (Node.among ["table"] nodes).filterMap namesIn?

theorem names_of_nodes (h : Node.ofText page = .ok nodes) :
    names page
      = if lists nodes = [] then .error .noTable
        else .ok (distinct (lists nodes).flatten) := by
  have hnodes : Packages.nodes page = .ok nodes := h
  rw [names, hnodes]
  dsimp only
  rw [namesAmong?, lists]
  split
  · next h => rw [if_pos h]; rfl
  · next h => rw [if_neg h]; rfl

theorem names_eq_noTable_iff (h : Node.ofText page = .ok nodes) :
    names page = .error .noTable ↔ lists nodes = [] := by
  rw [names_of_nodes h]
  split
  · next hlists => exact iff_of_true rfl hlists
  · next hlists => exact iff_of_false (fun herror => by cases herror) hlists

theorem eq_distinct_of_names (h : Node.ofText page = .ok nodes)
    (hns : names page = .ok ns) : ns = distinct (lists nodes).flatten := by
  rw [names_of_nodes h] at hns
  split at hns
  · cases hns
  · exact (Except.ok.inj hns).symm

theorem column?_eq_none_iff {row : Node} :
    column? row = none
      ↔ ∀ c ∈ row.inside ["th", "td"], cellText " " c ≠ columnHead := by
  simp [column?, List.findIdx?_eq_none_iff]

/-- A table lists functions only if some cell on the page says so. -/
theorem exists_head_of_lists (h : lists nodes ≠ []) :
    ∃ c ∈ Node.among ["th", "td"] nodes, cellText " " c = columnHead := by
  obtain ⟨list, hlist⟩ := List.exists_mem_of_ne_nil _ h
  obtain ⟨table, htable, hnames⟩ := List.mem_filterMap.1 hlist
  unfold namesIn? at hnames
  split at hnames
  · cases hnames
  next first rows hrows =>
  obtain ⟨column, hcolumn, -⟩ := Option.map_eq_some_iff.1 hnames
  have hfirst : first ∈ Node.among ["tr"] nodes :=
    Node.mem_among_of_inside (by rw [hrows]; exact List.mem_cons_self) nodes
      htable
  by_contra hnone
  push Not at hnone
  have hnot : column? first = none :=
    column?_eq_none_iff.2 fun c hc =>
      hnone c (Node.mem_among_of_inside hc nodes hfirst)
  rw [hcolumn] at hnot
  cases hnot

-- ==================================================================== layout

/-- The row of the layout table, with a page in its cell. -/
def layoutRow (nodes : List Node) : Node := .element "tr" [.element "td" nodes]

/-- What the rows among nodes say in a column, whatever tables they belong
to. -/
def namesInColumn (column : Nat) (nodes : List Node) : List String :=
  distinct ((Node.among ["tr"] nodes).filterMap (nameAt? column))

theorem cells_layoutRow (nodes : List Node) :
    (layoutRow nodes).inside ["th", "td"]
      = .element "td" nodes :: Node.among ["th", "td"] nodes := by
  simp [layoutRow, Node.inside, Node.among, Node.found]

theorem namesIn?_layout (nodes : List Node) :
    namesIn? (.element "table" [layoutRow nodes])
      = (column? (layoutRow nodes)).map fun column =>
          (Node.among ["tr"] nodes).filterMap (nameAt? column) := by
  have hrows : (Node.element "table" [layoutRow nodes]).inside ["tr"]
      = layoutRow nodes :: Node.among ["tr"] nodes := by
    simp [layoutRow, Node.inside, Node.among, Node.found]
  rw [namesIn?, hrows]

theorem lists_inLayout (nodes : List Node) :
    lists [.element "table" [layoutRow nodes]]
      = (namesIn? (.element "table" [layoutRow nodes])).toList
        ++ lists nodes := by
  have htables : Node.among ["table"] [.element "table" [layoutRow nodes]]
      = .element "table" [layoutRow nodes] :: Node.among ["table"] nodes := by
    simp [layoutRow, Node.among, Node.found]
  rw [lists, htables, List.filterMap_cons]
  cases namesIn? (.element "table" [layoutRow nodes]) with
  | none => rfl
  | some found => rfl

/-- Without a head in the layout there is none on the page. -/
theorem lists_eq_nil_of_layoutRow (h : column? (layoutRow nodes) = none) :
    lists nodes = [] := by
  by_contra hlists
  obtain ⟨c, hc, hhead⟩ := exists_head_of_lists hlists
  refine column?_eq_none_iff.1 h c ?_ hhead
  rw [cells_layoutRow]
  exact List.mem_cons_of_mem _ hc

/-- The layout gives what all rows say in its column, and then what the tables
of the page give. -/
theorem names_of_layout (hcolumn : column? (layoutRow nodes) = some column)
    (h : Node.ofText page = .ok [.element "table" [layoutRow nodes]]) :
    names page
      = .ok (distinct ((Node.among ["tr"] nodes).filterMap (nameAt? column)
          ++ (lists nodes).flatten)) := by
  rw [names_of_nodes h, lists_inLayout, namesIn?_layout, hcolumn]
  rfl

/-- **A page in a layout table** is read like the page if no cell of the row
around it says that it is the head of a column. Otherwise its rows are read in
that column, and what they say comes first: the names are the same only if the
page has the same ones at its start. -/
theorem names_inLayout (h : Node.isClosed page = true) :
    ∃ nodes, Node.ofText page = .ok nodes
      ∧ Node.ofText (inLayout page) = .ok [.element "table" [layoutRow nodes]]
      ∧ (column? (layoutRow nodes) = none →
        names page = .error .noTable
          ∧ names (inLayout page) = .error .noTable)
      ∧ ∀ column, column? (layoutRow nodes) = some column →
        let strays := namesInColumn column nodes
        (names page = .error .noTable → names (inLayout page) = .ok strays)
          ∧ ∀ ns, names page = .ok ns →
            names (inLayout page)
                = .ok (strays ++ ns.filter fun n => n ∉ strays)
              ∧ (names (inLayout page) = names page ↔ strays <+: ns) := by
  obtain ⟨nodes, hnodes, hlayout⟩ := Node.ofText_inLayout h
  rw [← layoutRow] at hlayout
  refine ⟨nodes, hnodes, hlayout, fun hnone => ?_, fun column hcolumn => ?_⟩
  · have hlists := lists_eq_nil_of_layoutRow hnone
    rw [names_eq_noTable_iff hnodes, names_eq_noTable_iff hlayout,
      lists_inLayout, namesIn?_layout, hnone, hlists]
    exact ⟨rfl, rfl⟩
  intro strays
  constructor
  · intro herror
    rw [names_of_layout hcolumn hlayout,
      (names_eq_noTable_iff hnodes).1 herror, List.flatten_nil, List.append_nil]
    rfl
  · intro ns hns
    have hboth : names (inLayout page)
        = .ok (strays ++ ns.filter fun n => n ∉ strays) := by
      rw [names_of_layout hcolumn hlayout, distinct_append,
        ← eq_distinct_of_names hnodes hns]
      rfl
    refine ⟨hboth, ?_⟩
    rw [hboth, hns, Except.ok.injEq]
    exact append_filter_eq_iff (names_eq_ok hns).1

/-- A page with a table of one column, in which nothing strays. -/
theorem names_inLayout_oneColumn :
    let page :=
      "<table><tr><th>Function</th></tr><tr><td>top()</td></tr></table>"
    Node.isClosed page = true
      ∧ names page = .ok ["top"]
      ∧ names (inLayout page) = .ok ["top"]
      ∧ ∃ nodes column, Node.ofText page = .ok nodes
        ∧ column? (layoutRow nodes) = some column
        ∧ namesInColumn column nodes <+: ["top"] := by
  intro page
  have hclosed : Node.isClosed page = true := by decide +kernel
  have hpage : names page = .ok ["top"] := by decide +kernel
  have hlayout : names (inLayout page) = .ok ["top"] := by
    decide +kernel
  refine ⟨hclosed, hpage, hlayout, ?_⟩
  obtain ⟨nodes, hnodes, -, hnone, hsome⟩ := names_inLayout hclosed
  cases hcolumn : column? (layoutRow nodes) with
  | none =>
    have herror := (hnone hcolumn).1
    rw [hpage] at herror
    cases herror
  | some column =>
    obtain ⟨-, hnames⟩ := hsome column hcolumn
    obtain ⟨-, hsame⟩ := hnames _ hpage
    exact ⟨nodes, column, hnodes, hcolumn, hsame.1 (hlayout.trans hpage.symm)⟩

/-- The cells of another column are taken for names when a table is put in a
layout table. -/
theorem names_inLayout_twoColumns :
    let page := "<table><tr><th>Function</th><th>Description</th></tr>"
      ++ "<tr><td>count()</td><td>Counts</td></tr></table>"
    Node.isClosed page = true
      ∧ names page = .ok ["count"]
      ∧ names (inLayout page) = .ok ["Description", "Counts", "count"] := by
  decide +kernel

end ReferencePage

end LogQuery
