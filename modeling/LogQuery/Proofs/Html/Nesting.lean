/-
A page inside other elements.

When elements are opened around a page, and no end tag of the page reaches out
to them (`Page.isClosed`), the page is read as it is read alone: what would
be the nodes of the page become the children of the innermost element around
it. One piece of markup keeps this (`read_inside`), so a page does
(`foldl_read_inside`). At the end the elements around the page are still open,
and their own end tags close them.
-/
import LogQuery.Proofs.Html.Pieces

namespace LogQuery.Html.Node

open Text

-- ============================================================ open elements

namespace Page

variable {p : Page} {e : Open} {es : List Open} {name : String} {n : Node}
  {m : Markup} {ms : List Markup}

/-- Text is hidden by an open element. -/
def hidesText (p : Page) : Bool :=
  p.elements.any fun e => hidingElements.contains e.name

/-- The open text becomes a node, if there is any. -/
theorem endText_eq (p : Page) :
    p.endText
      = if p.chars.isEmpty then p
        else { p.add (.text p.chars p.hidesText) with chars := [] } := rfl

@[simp]
theorem add_closedVoids (p : Page) (n : Node) :
    (p.add n).closedVoids = p.closedVoids := by
  unfold add
  split
  · rfl
  · rfl

/-- Nodes are added inside the open elements. -/
@[simp]
theorem add_names (p : Page) (n : Node) :
    (p.add n).elements.map (·.name) = p.elements.map (·.name) := by
  obtain ⟨elements, top, chars, closedVoids⟩ := p
  cases elements with
  | nil => rfl
  | cons e es => rfl

@[simp]
theorem endText_chars (p : Page) : p.endText.chars = [] := by
  rw [endText_eq]
  split
  · next h => exact List.isEmpty_iff.1 h
  · rfl

@[simp]
theorem endText_closedVoids (p : Page) :
    p.endText.closedVoids = p.closedVoids := by
  rw [endText_eq]
  split
  · rfl
  · exact add_closedVoids p _

/-- Ending a text opens and closes no element. -/
@[simp]
theorem endText_names (p : Page) :
    p.endText.elements.map (·.name) = p.elements.map (·.name) := by
  rw [endText_eq]
  split
  · rfl
  · exact add_names p _

/-- The page inside these open elements, of which `e` is the innermost. -/
def inside (p : Page) (e : Open) (es : List Open) : Page :=
  { p with
    elements := p.elements ++ { e with children := p.top ++ e.children } :: es
    top := [] }

/-- A node is added in the same way with elements around the page. -/
theorem inside_add (p : Page) (n : Node) (e : Open) (es : List Open) :
    (p.add n).inside e es = (p.inside e es).add n := by
  obtain ⟨elements, top, chars, closedVoids⟩ := p
  cases elements with
  | nil => rfl
  | cons own elements => rfl

/-- Elements that show their text. -/
def Show (es : List Open) : Prop :=
  es.any (fun e => hidingElements.contains e.name) = false

/-- Elements that show their text change nothing about whether text is hidden.
-/
theorem inside_hidesText (p : Page) (hshow : Show (e :: es)) :
    (p.inside e es).hidesText = p.hidesText := by
  rw [Show, List.any_cons] at hshow
  rw [hidesText, inside, List.any_append, List.any_cons, hshow, Bool.or_false]
  rfl

/-- A text is ended in the same way with elements around the page. -/
theorem inside_endText (p : Page) (hshow : Show (e :: es)) :
    p.endText.inside e es = (p.inside e es).endText := by
  rw [endText_eq, endText_eq, inside_hidesText p hshow]
  change _ = if p.chars.isEmpty then _ else _
  split
  · rfl
  · change { (p.add _).inside e es with chars := [] } = _
    rw [inside_add]
    rfl

-- =================================================================== closing

/-- The innermost element of the page is closed in the same way with others
around the page. -/
theorem closeOne_inside (e : Open) (es : List Open) (h : p.elements ≠ []) :
    (p.inside e es).closeOne = p.closeOne.inside e es := by
  obtain ⟨elements, top, chars, closedVoids⟩ := p
  cases elements with
  | nil => exact absurd rfl h
  | cons own elements =>
    exact (inside_add ⟨elements, top, chars, closedVoids⟩
      (.element own.name own.children.reverse) e es).symm

/-- Closing one element leaves the others open. -/
theorem closeOne_names (p : Page) :
    p.closeOne.elements.map (·.name) = (p.elements.map (·.name)).tail := by
  obtain ⟨elements, top, chars, closedVoids⟩ := p
  cases elements with
  | nil => rfl
  | cons own elements => exact add_names _ _

/-- Closing some elements leaves the outer ones open. -/
theorem repeat_closeOne_names (p : Page) (k : Nat) :
    ((k.repeat closeOne p).elements).map (·.name)
      = (p.elements.map (·.name)).drop k := by
  induction k with
  | zero => rfl
  | succ k ih => rw [Nat.repeat, closeOne_names, ih, List.tail_drop]

/-- As many elements as are open in the page are closed inside of others as
they are without them. -/
theorem repeat_closeOne_inside (e : Open) (es : List Open) {k : Nat}
    (h : k ≤ p.elements.length) :
    k.repeat closeOne (p.inside e es) = (k.repeat closeOne p).inside e es := by
  induction k with
  | zero => rfl
  | succ k ih =>
    rw [Nat.repeat, Nat.repeat, ih (by omega), closeOne_inside]
    intro hnil
    have hnames := repeat_closeOne_names p k
    rw [hnil, List.map_nil, eq_comm, List.drop_eq_nil_iff,
      List.length_map] at hnames
    omega

/-- An element of this name is open. -/
def isOpen (p : Page) (name : String) : Bool := p.elements.any (·.name = name)

theorem isOpen_iff :
    p.isOpen name = true ↔ name ∈ p.elements.map (·.name) := by
  simp [isOpen]

@[simp]
theorem isOpen_endText (p : Page) (name : String) :
    p.endText.isOpen name = p.isOpen name := by
  rw [Bool.eq_iff_iff, isOpen_iff, isOpen_iff, endText_names]

/-- An element is open in the page, or around it. -/
theorem isOpen_inside (p : Page) (e : Open) (es : List Open) (name : String) :
    (p.inside e es).isOpen name
      = (p.isOpen name || (e :: es).any (·.name = name)) :=
  List.any_append

/-- Closing an element closes those inside it first. -/
theorem close_eq (p : Page) (name : String) :
    p.close name
      = if p.isOpen name then
          ((p.elements.takeWhile (·.name ≠ name)).length + 1).repeat closeOne p
        else p := rfl

/-- An element that is open in the page is closed without those around the
page. -/
theorem close_inside_of_isOpen (e : Open) (es : List Open)
    (h : p.isOpen name = true) :
    (p.inside e es).close name = (p.close name).inside e es := by
  -- the innermost element of the name is one of the page
  have hended : p.elements.dropWhile (·.name ≠ name) ≠ [] := by
    rw [Ne, List.dropWhile_eq_nil_iff]
    intro hall
    obtain ⟨o, ho, hname⟩ := List.any_eq_true.1 h
    simpa [of_decide_eq_true hname] using hall o ho
  have htake : (p.inside e es).elements.takeWhile (·.name ≠ name)
      = p.elements.takeWhile (·.name ≠ name) :=
    takeWhile_append_of_ended hended _
  have hopen : (p.inside e es).isOpen name = true := by
    rw [isOpen_inside, h, Bool.true_or]
  rw [close_eq, close_eq, if_pos h, if_pos hopen, htake,
    repeat_closeOne_inside e es (ended_iff.1 hended)]

/-- The end tag of an element that is open neither in the page nor around it
is ignored. -/
theorem close_inside_of_not_isOpen (h : p.isOpen name = false)
    (hout : (e :: es).any (·.name = name) = false) :
    (p.inside e es).close name = (p.close name).inside e es := by
  have hopen : (p.inside e es).isOpen name = false := by
    rw [isOpen_inside, h, hout, Bool.or_false]
  rw [close_eq, close_eq, h, hopen]
  rfl

-- =================================================================== reading

/-- An end tag does not reach out of the page to elements of these names. -/
def keepsIn (names : List String) (p : Page) (name : String) : Bool :=
  !names.contains name || p.closedVoids.contains name || p.isOpen name

/-- The end tags among these pieces do not reach out of the page to elements of
these names, and at the end no element is open. -/
def isClosed (names : List String) : Page → List Markup → Bool
  | p, [] => p.elements.isEmpty
  | p, .closing name :: ms =>
    p.keepsIn names name && isClosed names (p.read (.closing name)) ms
  | p, m :: ms => isClosed names (p.read m) ms

variable {names : List String}

/-- The end tag of a void element that was closed before only counts as used;
any other closes its element. -/
theorem closing_eq (p : Page) (name : String) :
    p.closing name
      = if p.closedVoids.contains name then
          { p with closedVoids := p.closedVoids.erase name }
        else p.endText.close name := rfl

/-- An end tag that keeps in the page closes nothing around it. -/
theorem closing_inside (hshow : Show (e :: es))
    (h : p.keepsIn ((e :: es).map (·.name)) name = true) :
    (p.inside e es).closing name = (p.closing name).inside e es := by
  rw [closing_eq, closing_eq]
  change (if p.closedVoids.contains name then _ else _) = _
  split
  · rfl
  next hvoid =>
  rw [← inside_endText p hshow]
  cases hopen : p.isOpen name with
  | true => exact close_inside_of_isOpen e es (by simp [hopen])
  | false =>
    rw [keepsIn, hopen, Bool.eq_false_iff.2 hvoid] at h
    refine close_inside_of_not_isOpen (by simp [hopen]) ?_
    rw [List.any_eq_false]
    intro o ho hname
    have hmem : ((e :: es).map (·.name)).contains name = true :=
      List.contains_iff_mem.2 (List.mem_map.2 ⟨o, ho, of_decide_eq_true hname⟩)
    rw [hmem] at h
    cases h

theorem openElement_inside (p : Page) (name : String) (e : Open)
    (es : List Open) :
    (p.inside e es).openElement name = (p.openElement name).inside e es := rfl

/-- A new element is open. -/
theorem isOpen_openElement (p : Page) (name : String) :
    (p.openElement name).isOpen name = true := by
  simp [isOpen, openElement]

/-- A piece of markup is read inside other elements as it is read without
them. -/
theorem read_inside (hshow : Show (e :: es))
    (h : ∀ name, m = .closing name →
      p.keepsIn ((e :: es).map (·.name)) name = true) :
    (p.inside e es).read m = (p.read m).inside e es := by
  cases m with
  | opening name selfClosing =>
    rw [read, read, ← inside_endText p hshow, openElement_inside]
    have hopen := isOpen_openElement p.endText name
    dsimp only
    split
    · exact closing_inside hshow (by rw [keepsIn, hopen, Bool.or_true])
    split
    · rw [close_inside_of_isOpen e es hopen]
      rfl
    · rfl
  | closing name => exact closing_inside hshow (h name rfl)
  | text chars => rfl
  | «section» chars =>
    rw [read, read, ← inside_endText p hshow, inside_add]
  | divider => exact (inside_endText p hshow).symm

/-- So is a page. -/
theorem foldl_read_inside (e : Open) (es : List Open)
    (hshow : Show (e :: es))
    (h : p.isClosed ((e :: es).map (·.name)) ms = true) :
    ms.foldl read (p.inside e es) = (ms.foldl read p).inside e es
      ∧ (ms.foldl read p).elements = [] := by
  induction ms generalizing p with
  | nil => exact ⟨rfl, List.isEmpty_iff.1 h⟩
  | cons m ms ih =>
    obtain ⟨hkeeps, hms⟩ : (∀ name, m = .closing name →
        p.keepsIn ((e :: es).map (·.name)) name = true)
        ∧ (p.read m).isClosed ((e :: es).map (·.name)) ms = true := by
      cases m with
      | closing name =>
        rw [isClosed, Bool.and_eq_true] at h
        exact ⟨fun name' heq => by cases heq; exact h.1, h.2⟩
      | _ => exact ⟨fun name heq => (by cases heq), h⟩
    rw [List.foldl_cons, List.foldl_cons, read_inside hshow hkeeps]
    exact ih hms

-- =============================================================== void elements

/-- Elements that were closed without an end tag are void. -/
def VoidsAreVoid (p : Page) : Prop :=
  ∀ name ∈ p.closedVoids, voidElements.contains name = true

theorem closedVoids_closeOne (p : Page) :
    p.closeOne.closedVoids = p.closedVoids := by
  unfold closeOne
  split
  · rfl
  · exact add_closedVoids _ _

/-- Closing elements with an end tag leaves the void ones alone. -/
theorem closedVoids_close (p : Page) (name : String) :
    (p.close name).closedVoids = p.closedVoids := by
  rw [close_eq]
  split
  · generalize (p.elements.takeWhile (·.name ≠ name)).length + 1 = depth
    induction depth with
    | zero => rfl
    | succ depth ih => rw [Nat.repeat, closedVoids_closeOne, ih]
  · rfl

/-- They are after an end tag. -/
theorem VoidsAreVoid.closing (h : p.VoidsAreVoid) (name : String) :
    (p.closing name).VoidsAreVoid := by
  rw [closing_eq]
  split
  · exact fun n hn => h n (List.mem_of_mem_erase hn)
  · rwa [VoidsAreVoid, closedVoids_close, endText_closedVoids]

/-- They are after any piece of a page. -/
theorem VoidsAreVoid.read (h : p.VoidsAreVoid) (m : Markup) :
    (p.read m).VoidsAreVoid := by
  have hend : p.endText.VoidsAreVoid := by
    rwa [VoidsAreVoid, endText_closedVoids]
  cases m with
  | opening name selfClosing =>
    have hopened : (p.endText.openElement name).VoidsAreVoid := hend
    rw [Page.read]
    dsimp only
    split
    · exact hopened.closing name
    split
    · next hvoid =>
      intro n hn
      rcases List.mem_append.1 hn with hn | hn
      · exact hopened n hn
      · rw [List.mem_singleton.1 hn]
        exact hvoid
    · exact hopened
  | closing name => exact h.closing name
  | text chars => exact h
  | «section» chars => rwa [VoidsAreVoid, Page.read, add_closedVoids]
  | divider => exact hend

/-- They are at the end of a page. -/
theorem VoidsAreVoid.foldl (h : p.VoidsAreVoid) (ms : List Markup) :
    (ms.foldl Page.read p).VoidsAreVoid := by
  induction ms generalizing p with
  | nil => exact h
  | cons m ms ih => exact ih (h.read m)

/-- Other elements are closed by their end tags. -/
theorem VoidsAreVoid.not_contains (h : p.VoidsAreVoid)
    (hname : voidElements.contains name = false) :
    p.closedVoids.contains name = false := by
  rw [Bool.eq_false_iff]
  intro hmem
  rw [h name (List.contains_iff_mem.1 hmem)] at hname
  cases hname

-- ============================================================ the tags around

theorem endText_of_chars (h : p.chars = []) : p.endText = p := by
  rw [endText_eq, h]
  rfl

theorem endText_elements (h : p.elements = []) : p.endText.elements = [] := by
  have hnames := endText_names p
  rwa [h, List.map_nil, List.map_eq_nil_iff] at hnames

/-- A page without open elements is finished when its text is ended. -/
theorem finish_of_elements (h : p.elements = []) :
    p.finish = p.endText.top.reverse := by
  rw [finish, endText_elements h]
  rfl

/-- An end tag ends the text first. -/
theorem closing_endText (hvoid : p.closedVoids.contains name = false) :
    p.endText.closing name = p.closing name := by
  rw [closing_eq, closing_eq, endText_closedVoids, hvoid,
    endText_of_chars (endText_chars p)]
  rfl

/-- Its own end tag closes the innermost open element. -/
theorem closing_innermost (children : List Node) (es : List Open)
    (top : List Node) {closedVoids : List String}
    (hvoid : closedVoids.contains name = false) :
    closing ⟨⟨name, children⟩ :: es, top, [], closedVoids⟩ name
      = add ⟨es, top, [], closedVoids⟩ (.element name children.reverse) := by
  have hopen : isOpen ⟨⟨name, children⟩ :: es, top, [], closedVoids⟩ name
      = true := by simp [isOpen]
  have hdepth : ((⟨name, children⟩ :: es).takeWhile
      (·.name ≠ name)).length = 0 := by simp
  rw [closing_eq, hvoid, endText_of_chars rfl, if_neg Bool.false_ne_true,
    close_eq, if_pos hopen, hdepth]
  rfl

end Page

-- =================================================================== layout

/-- The elements of the layout, from the inside. -/
def layout : List Open := [⟨"td", []⟩, ⟨"tr", []⟩, ⟨"table", []⟩]

/-- The page is complete: it does not end within a tag, a comment or a
reference, its elements are closed, and it closes no others that are like those
of the layout. -/
def isClosed (page : String) : Bool :=
  Markup.endsWhole true (page.length + 1) page.toList
    && (Markup.ofText page).toOption.any
      (Page.isClosed (layout.map (·.name)) ⟨[], [], [], []⟩)

/-- The end tags of the layout close its elements around the page. -/
theorem finish_layout {p : Page} (h : p.elements = [])
    (hvoids : p.VoidsAreVoid) :
    ([.closing "td", .closing "tr", .closing "table"].foldl Page.read
      (p.inside ⟨"td", []⟩ [⟨"tr", []⟩, ⟨"table", []⟩])).finish
      = [.element "table" [.element "tr" [.element "td" p.finish]]] := by
  have htd : p.closedVoids.contains "td" = false :=
    hvoids.not_contains (by decide)
  have htr : p.closedVoids.contains "tr" = false :=
    hvoids.not_contains (by decide)
  have htable : p.closedVoids.contains "table" = false :=
    hvoids.not_contains (by decide)
  have hended : p.endText = ⟨[], p.endText.top, [], p.closedVoids⟩ := by
    rw [← Page.endText_elements h, ← Page.endText_chars p,
      ← Page.endText_closedVoids p]
  have hcell : (p.inside ⟨"td", []⟩ [⟨"tr", []⟩, ⟨"table", []⟩]).closing "td"
      = ⟨[⟨"tr", [.element "td" p.finish]⟩, ⟨"table", []⟩], [], [],
        p.closedVoids⟩ := by
    -- the text that is open goes into the cell
    rw [← Page.closing_endText (p := p.inside _ _) htd,
      ← Page.inside_endText p (by rfl), hended, Page.finish_of_elements h]
    refine (Page.closing_innermost (p.endText.top ++ []) _ [] htd).trans ?_
    rw [List.append_nil]
    rfl
  have hrow := Page.closing_innermost [.element "td" p.finish]
    [⟨"table", []⟩] [] htr
  have htable := Page.closing_innermost [.element "tr" [.element "td" p.finish]]
    [] [] htable
  simp only [List.foldl_cons, List.foldl_nil, Page.read]
  rw [hcell, hrow]
  exact congrArg Page.finish htable

/-- The nodes of a closed page are the content of the cell that it is put
in. -/
theorem ofText_inLayout {page : String} (h : isClosed page = true) :
    ∃ nodes, ofText page = .ok nodes
      ∧ ofText (inLayout page)
        = .ok [.element "table" [.element "tr" [.element "td" nodes]]] := by
  rw [isClosed, Bool.and_eq_true] at h
  obtain ⟨found, hfound, hlayout⟩ := Markup.ofText_inLayout h.1
  have hclosed := h.2
  rw [hfound] at hclosed
  obtain ⟨hinside, hnone⟩ := Page.foldl_read_inside ⟨"td", []⟩
    [⟨"tr", []⟩, ⟨"table", []⟩] (by rfl) hclosed
  have hvoids : (found.foldl Page.read ⟨[], [], [], []⟩).VoidsAreVoid :=
    Page.VoidsAreVoid.foldl (fun _ hn => by cases hn) found
  have hstart : [.opening "table" false, .opening "tr" false,
        .opening "td" false].foldl Page.read ⟨[], [], [], []⟩
      = Page.inside ⟨[], [], [], []⟩ ⟨"td", []⟩
          [⟨"tr", []⟩, ⟨"table", []⟩] := by
    rfl
  refine ⟨_, by rw [ofText, hfound]; rfl, ?_⟩
  rw [ofText, hlayout, Except.map, List.foldl_append, List.foldl_append, hstart,
    hinside, finish_layout hnone hvoids]

end LogQuery.Html.Node
