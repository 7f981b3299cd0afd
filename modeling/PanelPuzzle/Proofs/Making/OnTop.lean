import PanelPuzzle.Proofs.Making.Laying
/-!
# What is added on top of a draft

Covers come last.  They put new elements on a panel that is there already, and what they do to the old ones
is recorded: a plug that is taken over has a coverable that says so, and so has an element that gets another
size.

A draft is compared with the one before all covers.  `Draft.Topped` is stated for a fixed first draft and a
growing second one, so that each thing a cover does has one rule: `Topped.append`, `Topped.takeOver`,
`Topped.obscure` and so on.

* `Coverable.Marked` — what is recorded about a coverable, for good.
* `Element.Altered` — what may be done to an element, and the record that there is of it.
* `Draft.Topped` — **nothing else is changed.**
-/

namespace PanelPuzzle

/-! ## Coverables -/

/-- **Marks are set on a coverable,** and none is taken away. -/
structure Coverable.Marked (c c' : Coverable) : Prop where
  rest : c' = { c with hasRemote := c'.hasRemote, sizeObscured := c'.sizeObscured }
  hasRemote : c.hasRemote = true → c'.hasRemote = true
  sizeObscured : c.sizeObscured = true → c'.sizeObscured = true

namespace Coverable.Marked

variable {c c' c'' : Coverable}

lemma refl (c : Coverable) : c.Marked c := ⟨rfl, fun h => h, fun h => h⟩

lemma trans (h : c.Marked c') (h' : c'.Marked c'') : c.Marked c'' where
  rest := by rw [h'.rest, h.rest]
  hasRemote := h'.hasRemote ∘ h.hasRemote
  sizeObscured := h'.sizeObscured ∘ h.sizeObscured

lemma role_eq (h : c.Marked c') : c'.role = c.role := by rw [h.rest]

lemma source_eq (h : c.Marked c') : c'.source = c.source := by rw [h.rest]

lemma takeOver (c : Coverable) : c.Marked { c with hasRemote := true } := ⟨rfl, fun _ => rfl, fun h => h⟩

lemma obscure (c : Coverable) : c.Marked { c with sizeObscured := true } := ⟨rfl, fun h => h, fun _ => rfl⟩

end Coverable.Marked

/-- The coverables of a panel, marked. -/
structure Coverable.Marks (cs cs' : List Coverable) : Prop where
  length_eq : cs'.length = cs.length
  marked : ∀ (i : Nat) (c : Coverable), cs[i]? = some c → ∃ c', cs'[i]? = some c' ∧ c.Marked c'

/-- The plug at a place is now controlled by others. -/
def Coverable.TakesOver (cs cs' : List Coverable) (place : Nat) : Prop :=
  ∃ (i : Nat) (c c' : Coverable), cs[i]? = some c ∧ cs'[i]? = some c' ∧
    c.source = some place ∧ c.role = .plug ∧ c.hasRemote = false ∧ c'.hasRemote = true

/-- The element at a place now starts with a wrong size. -/
def Coverable.Obscures (cs cs' : List Coverable) (place : Nat) : Prop :=
  ∃ (i : Nat) (c c' : Coverable), cs[i]? = some c ∧ cs'[i]? = some c' ∧
    c.source = some place ∧ c.sizeObscured = false ∧ c'.sizeObscured = true

namespace Coverable

variable {cs cs' cs'' : List Coverable} {place : Nat}

namespace Marks

lemma refl (cs : List Coverable) : Marks cs cs := ⟨rfl, fun _ c hc => ⟨c, hc, .refl c⟩⟩

lemma trans (h : Marks cs cs') (h' : Marks cs' cs'') : Marks cs cs'' where
  length_eq := h'.length_eq.trans h.length_eq
  marked i c hc := by
    obtain ⟨c', hc', hmarked⟩ := h.marked i c hc
    obtain ⟨c'', hc'', hmarked'⟩ := h'.marked i c' hc'
    exact ⟨c'', hc'', hmarked.trans hmarked'⟩

/-- One more mark is set. -/
lemma modify (h : Marks cs cs') (target : Nat) {mark : Coverable → Coverable}
    (hmark : ∀ c : Coverable, c.Marked (mark c)) : Marks cs (cs'.modify target mark) where
  length_eq := (List.length_modify _ _ _).trans h.length_eq
  marked i c hc := by
    obtain ⟨c', hc', hmarked⟩ := h.marked i c hc
    refine ⟨if target = i then mark c' else c', ?_, ?_⟩
    · rw [List.getElem?_modify, hc']
      rfl
    · split
      · exact hmarked.trans (hmark c')
      · exact hmarked

/-- Every coverable was there before. -/
lemma exists_before (h : Marks cs cs') {i : Nat} {c' : Coverable} (hc' : cs'[i]? = some c') :
    ∃ c, cs[i]? = some c ∧ c.Marked c' := by
  have hlt := (List.getElem?_eq_some_iff.mp hc').1
  rw [h.length_eq] at hlt
  obtain ⟨c'', hc'', hmarked⟩ := h.marked i _ (List.getElem?_eq_getElem hlt)
  obtain rfl := Option.some.inj (hc'.symm.trans hc'')
  exact ⟨_, List.getElem?_eq_getElem hlt, hmarked⟩

end Marks

lemma TakesOver.later (h : TakesOver cs cs' place) (hmarks : Marks cs' cs'') : TakesOver cs cs'' place := by
  obtain ⟨i, c, c', hc, hc', hsource, hrole, hbefore, hafter⟩ := h
  obtain ⟨c'', hc'', hmarked⟩ := hmarks.marked i c' hc'
  exact ⟨i, c, c'', hc, hc'', hsource, hrole, hbefore, hmarked.hasRemote hafter⟩

lemma Obscures.later (h : Obscures cs cs' place) (hmarks : Marks cs' cs'') : Obscures cs cs'' place := by
  obtain ⟨i, c, c', hc, hc', hsource, hbefore, hafter⟩ := h
  obtain ⟨c'', hc'', hmarked⟩ := hmarks.marked i c' hc'
  exact ⟨i, c, c'', hc, hc'', hsource, hbefore, hmarked.sizeObscured hafter⟩

/-- **A plug is taken over** that was not before. -/
lemma Marks.takesOver (h : Marks cs cs') {target source : Nat} {c : Coverable} (hc : cs'[target]? = some c)
    (hsource : c.source = some source) (hrole : c.role = .plug) (hnot : c.hasRemote = false) :
    TakesOver cs (cs'.modify target fun c => { c with hasRemote := true }) source := by
  obtain ⟨c₀, hc₀, hmarked⟩ := h.exists_before hc
  have hbefore : c₀.hasRemote = false := by
    by_contra hne
    rw [hmarked.hasRemote (Bool.not_eq_false _ ▸ hne)] at hnot
    cases hnot
  refine ⟨target, c₀, { c with hasRemote := true }, hc₀, ?_, hmarked.source_eq.symm.trans hsource,
    hmarked.role_eq.symm.trans hrole, hbefore, rfl⟩
  rw [List.getElem?_modify_eq, hc]
  rfl

/-- **An element gets a wrong size** that had none before. -/
lemma Marks.obscures (h : Marks cs cs') {target source : Nat} {c : Coverable} (hc : cs'[target]? = some c)
    (hsource : c.source = some source) (hnot : c.sizeObscured = false) :
    Obscures cs (cs'.modify target fun c => { c with sizeObscured := true }) source := by
  obtain ⟨c₀, hc₀, hmarked⟩ := h.exists_before hc
  have hbefore : c₀.sizeObscured = false := by
    by_contra hne
    rw [hmarked.sizeObscured (Bool.not_eq_false _ ▸ hne)] at hnot
    cases hnot
  refine ⟨target, c₀, { c with sizeObscured := true }, hc₀, ?_, hmarked.source_eq.symm.trans hsource,
    hbefore, rfl⟩
  rw [List.getElem?_modify_eq, hc]
  rfl

end Coverable

/-! ## Elements -/

/-- **What may be done to the element at a place:** its method is taken away if it is a plug that is taken
over, and its size and its place on the panel are changed if it starts with a wrong size. -/
structure Element.Altered (cs cs' : List Coverable) (place : Nat) (e e' : Element) : Prop where
  rest : e' = { e with
    method := e'.method, width := e'.width, height := e'.height, x := e'.x, y := e'.y }
  method : e'.method = e.method ∨ e'.method = .none ∧ Coverable.TakesOver cs cs' place
  extent : (e'.width = e.width ∧ e'.height = e.height ∧ e'.x = e.x ∧ e'.y = e.y) ∨
    Coverable.Obscures cs cs' place

namespace Element.Altered

variable {cs cs' cs'' : List Coverable} {place : Nat} {e e' : Element}

lemma refl (cs cs' : List Coverable) (place : Nat) (e : Element) : Altered cs cs' place e e :=
  ⟨rfl, .inl rfl, .inl ⟨rfl, rfl, rfl, rfl⟩⟩

/-- What was recorded stays recorded. -/
lemma later (h : Altered cs cs' place e e') (hmarks : Coverable.Marks cs' cs'') :
    Altered cs cs'' place e e' :=
  ⟨h.rest, h.method.imp_right fun h => ⟨h.1, h.2.later hmarks⟩, h.extent.imp_right fun h => h.later hmarks⟩

lemma locked (h : Altered cs cs' place e e') (htaken : Coverable.TakesOver cs cs' place) :
    Altered cs cs' place e e'.locked :=
  ⟨congrArg Element.locked h.rest, .inr ⟨rfl, htaken⟩, h.extent⟩

lemma resized (h : Altered cs cs' place e e') (hobscured : Coverable.Obscures cs cs' place) (size : Number)
    (r : Rect) : Altered cs cs' place e (e'.resized size r) where
  rest := by
    rw [Element.resized, Element.centered, Element.moveTo, h.rest]
  method := h.method
  extent := .inr hobscured

end Element.Altered

/-! ## Drafts -/

namespace Draft

/-- **Something is added on top of a draft,** and nothing that was there is lost. -/
structure Topped (d d' : Draft) : Prop where
  index : d'.index = d.index
  theme : d'.panel.theme = d.panel.theme
  filledSockets : d'.filledSockets = d.filledSockets
  claims : d.grid.claims <+: d'.grid.claims
  resetTargets : d.resetTargets <+: d'.resetTargets
  coverables : Coverable.Marks d.coverables d'.coverables
  elements : ∀ (place : Nat) (e : Element), d.elements[place]? = some e →
    ∃ e', d'.elements[place]? = some e' ∧ e.Altered d.coverables d'.coverables place e'

variable {d d' : Draft}

namespace Topped

lemma refl (d : Draft) : d.Topped d :=
  ⟨rfl, rfl, rfl, List.prefix_rfl, List.prefix_rfl, Coverable.Marks.refl d.coverables,
    fun _ e he => ⟨e, he, .refl _ _ _ e⟩⟩

/-- More is claimed. -/
lemma withGrid (h : d.Topped d') {grid : Grid} (hclaims : d'.grid.claims <+: grid.claims) :
    d.Topped { d' with grid } :=
  ⟨h.index, h.theme, h.filledSockets, h.claims.trans hclaims, h.resetTargets, h.coverables, h.elements⟩

/-- **Elements are put on top.** -/
lemma append (h : d.Topped d') (es : List Element) : d.Topped (d'.withElements (d'.elements ++ es)) where
  index := h.index
  theme := h.theme
  filledSockets := h.filledSockets
  claims := h.claims
  resetTargets := h.resetTargets
  coverables := h.coverables
  elements place e he := by
    obtain ⟨e', he', haltered⟩ := h.elements place e he
    exact ⟨e', (List.getElem?_append_left (List.getElem?_eq_some_iff.mp he').1).trans he', haltered⟩

/-- The remote mechanisms of the panel are counted. -/
lemma addRemote (h : d.Topped d') : d.Topped { d' with remoteSets := d'.remoteSets + 1 } :=
  ⟨h.index, h.theme, h.filledSockets, h.claims, h.resetTargets, h.coverables, h.elements⟩

lemma trap (h : d.Topped d') (id : String) :
    d.Topped { d' with resetTargets := d'.resetTargets ++ [id] } :=
  ⟨h.index, h.theme, h.filledSockets, h.claims, h.resetTargets.trans (List.prefix_append _ _),
    h.coverables, h.elements⟩

/-- **An element is changed, and its coverable is marked.**  That the mark tells of the change is left to be
shown for the element itself; all others keep what is known of them. -/
lemma change (h : d.Topped d') (target source : Nat) {change : Element → Element}
    {mark : Coverable → Coverable} (hmark : ∀ c : Coverable, c.Marked (mark c))
    (hchange : ∀ e e' : Element,
      e.Altered d.coverables (d'.coverables.modify target mark) source e' →
        e.Altered d.coverables (d'.coverables.modify target mark) source (change e')) :
    d.Topped ((d'.modifyElement source change).modifyCoverable target mark) where
  index := h.index
  theme := h.theme
  filledSockets := h.filledSockets
  claims := h.claims
  resetTargets := h.resetTargets
  coverables := h.coverables.modify target hmark
  elements place e he := by
    obtain ⟨e', he', haltered⟩ := h.elements place e he
    have hlater := haltered.later ((Coverable.Marks.refl d'.coverables).modify target hmark)
    refine ⟨if source = place then change e' else e', ?_, ?_⟩
    · change (d'.elements.modify source change)[place]? = _
      rw [List.getElem?_modify, he']
      rfl
    · split
      · rename_i hplace
        subst hplace
        exact hchange e e' hlater
      · exact hlater

variable {target source : Nat} {c : Coverable}

lemma takeOver (h : d.Topped d') (hc : d'.coverables[target]? = some c) (hsource : c.source = some source)
    (hrole : c.role = .plug) (hnot : c.hasRemote = false) :
    d.Topped ((d'.modifyElement source Element.locked).modifyCoverable target
      fun c => { c with hasRemote := true }) :=
  h.change target source .takeOver fun _ _ haltered =>
    haltered.locked (h.coverables.takesOver hc hsource hrole hnot)

lemma obscure (h : d.Topped d') (hc : d'.coverables[target]? = some c) (hsource : c.source = some source)
    (hnot : c.sizeObscured = false) (size : Number) (r : Rect) :
    d.Topped ((d'.modifyElement source (·.resized size r)).modifyCoverable target
      fun c => { c with sizeObscured := true }) :=
  h.change target source .obscure fun _ _ haltered =>
    haltered.resized (h.coverables.obscures hc hsource hnot) size r

end Topped

end Draft

/-! ## Desks -/

namespace Draft.Topped

variable {d₀ : Draft} {d : Desk} {r : Rect} {grid : Grid}

lemma claim (h : d₀.Topped d.draft) (hclaims : d.Claims r grid) : d₀.Topped (d.withGrid grid).draft :=
  h.withGrid hclaims.grows.claims_isPrefix

/-- **Remote controls are put on top.** -/
lemma control (h : d₀.Topped d.draft) (hclaims : d.Claims r grid) (color : UInt8) (targetId : String) :
    d₀.Topped (d.control r grid color targetId).draft :=
  ((h.claim hclaims).append _).addRemote

end Draft.Topped

end PanelPuzzle
