import PanelPuzzle.Proofs.Making.Wiring
/-!
# Traps on a desk

A draft keeps a list of the sockets that have a trap.  It tells neither more nor less than the buttons on
the panel: each of them brings back the next socket of the list, and no socket is listed twice.  A socket
was worth a trap when it got one, and it remains so, as it is filled forever and cannot be locked.

* `Element.traps` — the sockets that an element brings back to the start.
* `Draft.WorthTrap`, `Draft.Trapped` — a socket that is worth a trap, and a panel whose traps are in order.
* `Desk.Turn.traps` — a turn adds one trap at most.
* `Desk.Turn.worthTrap` — **a socket that is worth a trap remains so.**
* `Desk.Turns.trapped` — **turns keep traps in order.**
-/

namespace PanelPuzzle

/-! ## Traps -/

/-- The id of the socket that an action brings back to the start. -/
def Action.trapped? : Action → Option String
  | reset id => some id
  | _ => none

lemma Action.Local.trapped?_eq_none {a : Action} {own : String} (h : a.Local own) : a.trapped? = none := by
  cases a with
  | reset => exact h.elim
  | _ => rfl

namespace Element

/-- The ids of the sockets that an element brings back to the start. -/
def traps (e : Element) : List String := e.actions.filterMap Action.trapped?

lemma Inert.traps_eq_nil {e : Element} (h : e.Inert) : e.traps = [] :=
  List.filterMap_eq_nil_iff.mpr fun a ha => (h a ha).trapped?_eq_none

lemma traps_eq_of_singleton {e : Element} {a : Action} (h : e.actions = [a]) :
    e.traps = a.trapped?.toList := by
  rw [traps, h, List.filterMap_cons, List.filterMap_nil]
  cases a.trapped? <;> rfl

lemma Lockable.traps_eq_nil {e : Element} (h : e.Lockable) : e.traps = [] :=
  (inert_of_actions_eq_nil h.actions).traps_eq_nil

lemma flatMap_traps_push (es : List Element) (e : Element) :
    (es ++ [e]).flatMap traps = es.flatMap traps ++ e.traps := by
  rw [List.flatMap_append, List.flatMap_singleton]

/-- The buttons of a quartet bring nothing back. -/
lemma flatMap_traps_quartet (es : List Element) (r : Rect) (color : UInt8) (id : String) (n : Nat) :
    (es ++ Scene.quartet r color id n Remote.quartet).flatMap traps = es.flatMap traps := by
  have hquartet : (Scene.quartet r color id n Remote.quartet).flatMap traps = [] := rfl
  rw [List.flatMap_append, hquartet, List.append_nil]

/-- A change that keeps actions keeps traps. -/
lemma flatMap_traps_modify (es : List Element) (place : Nat) {change : Element → Element}
    (hchange : ∀ e : Element, e.Stays (change e)) :
    (es.modify place change).flatMap traps = es.flatMap traps := by
  have hmap : (es.modify place change).map traps = es.map traps := by
    refine List.ext_getElem? fun i => ?_
    rw [List.getElem?_map, List.getElem?_map, List.getElem?_modify, Option.map_eq_map, Option.map_map]
    refine congrArg (Option.map · es[i]?) (funext fun e => ?_)
    change (if place = i then change e else e).traps = e.traps
    split
    · rw [traps, (hchange e).actions_eq, traps]
    · rfl
  rw [List.flatMap_def, hmap, List.flatMap_def]

end Element

namespace Draft

/-- **A socket is worth a trap** if the player acts on it or it is filled at the start. -/
structure WorthTrap (d : Draft) (e : Element) : Prop where
  socket : e.isSocket = true
  used : e.method ≠ .none ∨ e.id ∈ d.filledSockets

/-- **The traps of a panel are in order.** -/
structure Trapped (d : Draft) : Prop where
  nodup : d.resetTargets.Nodup
  /-- Each action that brings a socket back belongs to one entry of the list. -/
  traps : d.elements.flatMap Element.traps = d.resetTargets
  worth : ∀ id ∈ d.resetTargets, ∃ e ∈ d.elements, e.id = id ∧ d.WorthTrap e

lemma Trapped.new (index : Nat) (theme : String) : (Draft.new index theme).Trapped :=
  ⟨List.nodup_nil, rfl, fun _ hid => absurd hid List.not_mem_nil⟩

/-- The sockets that may get a trap are those that are worth one and have none. -/
lemma mem_trapCandidates {d : Draft} {id : String} : id ∈ Cover.trapCandidates d ↔
    id ∉ d.resetTargets ∧ ∃ e ∈ d.elements, e.id = id ∧ d.WorthTrap e := by
  simp only [Cover.trapCandidates, Cover.isTrappable, List.mem_map, List.mem_filter, Bool.and_eq_true,
    Bool.or_eq_true, Bool.not_eq_true', decide_eq_true_eq, List.contains_eq_mem, decide_eq_false_iff_not]
  constructor
  · rintro ⟨e, ⟨he, ⟨hsocket, hnew⟩, hused⟩, rfl⟩
    exact ⟨hnew, e, he, rfl, hsocket, hused⟩
  · rintro ⟨hnew, e, he, rfl, hsocket, hused⟩
    exact ⟨e, ⟨he, ⟨hsocket, hnew⟩, hused⟩, rfl⟩

end Draft

namespace Desk

variable {d d' : Desk}

/-! ## One turn -/

/-- **A turn adds one trap at most,** for a socket that may get one. -/
lemma Turn.traps (h : d.Turn d') :
    (d'.elements.flatMap Element.traps = d.elements.flatMap Element.traps ∧
      d'.draft.resetTargets = d.draft.resetTargets) ∨
    ∃ id ∈ Cover.trapCandidates d.draft,
      d'.elements.flatMap Element.traps = d.elements.flatMap Element.traps ++ [id] ∧
      d'.draft.resetTargets = d.draft.resetTargets ++ [id] := by
  have hpush : ∀ {e : Element}, e.traps = [] →
      (d.elements ++ [e]).flatMap Element.traps = d.elements.flatMap Element.traps := fun he => by
    rw [Element.flatMap_traps_push, he, List.append_nil]
  cases h with
  | claim | require | deposit | fill | cover => exact .inl ⟨rfl, rfl⟩
  | add _ hinert | key _ hinert => exact .inl ⟨hpush hinert.traps_eq_nil, rfl⟩
  | place _ hlockable => exact .inl ⟨hpush hlockable.traps_eq_nil, rfl⟩
  | placeSteered _ hlockable =>
    exact .inl ⟨(Element.flatMap_traps_quartet ..).trans (hpush hlockable.traps_eq_nil), rfl⟩
  | lid _ hactions =>
    refine .inl ⟨(Element.flatMap_traps_quartet ..).trans (hpush ?_), rfl⟩
    exact (Element.inert_of_actions_eq_nil hactions).traps_eq_nil
  | lock => exact .inl ⟨Element.flatMap_traps_modify _ _ stays_locked, rfl⟩
  | steer =>
    refine .inl ⟨(Element.flatMap_traps_modify _ _ stays_locked).trans ?_, rfl⟩
    exact Element.flatMap_traps_quartet ..
  | release _ _ _ _ _ _ _ hactions =>
    refine .inl ⟨(Element.flatMap_traps_modify _ _ stays_locked).trans (hpush ?_), rfl⟩
    exact Element.traps_eq_of_singleton hactions
  | obscure _ _ _ hactions =>
    refine .inl ⟨(Element.flatMap_traps_modify _ _ (stays_resized _ _)).trans (hpush ?_), rfl⟩
    exact Element.traps_eq_of_singleton hactions
  | trap hid _ hactions =>
    refine .inr ⟨_, hid, ?_, rfl⟩
    exact (Element.flatMap_traps_push ..).trans (congrArg _ (Element.traps_eq_of_singleton hactions))

/-- What is filled is filled forever. -/
lemma Turn.filledSockets_subset (h : d.Turn d') : d.draft.filledSockets ⊆ d'.draft.filledSockets := by
  cases h with
  | fill => exact List.subset_append_left _ _
  | claim | require | add | deposit | cover | key | place | placeSteered | lid | steer | release | lock
    | obscure | trap => exact List.Subset.refl _

/-- What is locked is no socket. -/
lemma getElem?_locked {es : List Element} {place place' : Nat} {e locked : Element}
    (he : es[place]? = some e) (hsocket : e.isSocket = true) (hlocked : es[place']? = some locked)
    (hlockable : locked.Lockable) : (es.modify place' Element.locked)[place]? = some e := by
  have hne : place' ≠ place := by
    rintro rfl
    obtain rfl := Option.some.inj (he.symm.trans hlocked)
    rw [Element.isSocket, hlockable.comparison] at hsocket
    exact Bool.false_ne_true hsocket
  rw [List.getElem?_modify_ne _ _ hne, he]

/-- A size is not a way to act on an element. -/
lemma getElem?_resized {es : List Element} {place : Nat} {e : Element} (he : es[place]? = some e)
    (place' : Nat) (size : Number) (r : Rect) :
    ∃ e', (es.modify place' (·.resized size r))[place]? = some e' ∧ e'.method = e.method := by
  rw [List.getElem?_modify, he]
  split <;> exact ⟨_, rfl, rfl⟩

/-- **The way to act on a socket stays.** -/
lemma Turn.method_eq (h : d.Turn d') (hsourced : d.Sourced) {place : Nat} {e : Element}
    (he : d.elements[place]? = some e) (hsocket : e.isSocket = true) :
    ∃ e', d'.elements[place]? = some e' ∧ e'.method = e.method := by
  cases h with
  | claim | require | deposit | fill | cover => exact ⟨e, he, rfl⟩
  | add | key | place | trap => exact ⟨e, getElem?_append he _, rfl⟩
  | placeSteered | lid => exact ⟨e, getElem?_append (getElem?_append he _) _, rfl⟩
  | lock hlocked hlockable => exact ⟨e, getElem?_locked he hsocket hlocked hlockable, rfl⟩
  | steer hsource hrole | release hsource hrole =>
    refine ⟨e, getElem?_locked (getElem?_append he _) hsocket (getElem?_append hsource.element _) ?_, rfl⟩
    exact (hsourced.source hsource hrole).2
  | obscure => exact getElem?_resized (getElem?_append he _) ..

/-- **A socket that is worth a trap remains so.** -/
lemma Turn.worthTrap (h : d.Turn d') (hsourced : d.Sourced) {id : String}
    (hworth : ∃ e ∈ d.elements, e.id = id ∧ d.draft.WorthTrap e) :
    ∃ e ∈ d'.elements, e.id = id ∧ d'.draft.WorthTrap e := by
  obtain ⟨e, he, hid, hsocket, hused⟩ := hworth
  obtain ⟨place, hplace⟩ := List.mem_iff_getElem?.mp he
  obtain ⟨e', he', hstays⟩ := h.stays hplace
  obtain ⟨e'', he'', hmethod⟩ := h.method_eq hsourced hplace hsocket
  obtain rfl := Option.some.inj (he'.symm.trans he'')
  refine ⟨e', List.mem_of_getElem? he', hstays.id_eq.trans hid, ?_, ?_⟩
  · rw [Element.isSocket, hstays.comparison_eq]
    exact hsocket
  · rw [hmethod, hstays.id_eq]
    exact hused.imp_right fun hfilled => h.filledSockets_subset hfilled

/-- **A turn keeps traps in order.** -/
lemma Turn.trapped (h : d.Turn d') (hsourced : d.Sourced) (hd : d.draft.Trapped) : d'.draft.Trapped := by
  rcases h.traps with ⟨htraps, htargets⟩ | ⟨id, hid, htraps, htargets⟩
  · refine ⟨htargets ▸ hd.nodup, htraps.trans (hd.traps.trans htargets.symm), fun id hid => ?_⟩
    exact h.worthTrap hsourced (hd.worth id (htargets ▸ hid))
  · obtain ⟨hnew, hworth⟩ := Draft.mem_trapCandidates.mp hid
    refine ⟨?_, htraps.trans ?_, fun id' hid' => h.worthTrap hsourced ?_⟩
    · rw [htargets, List.nodup_append_comm]
      exact List.nodup_cons.mpr ⟨hnew, hd.nodup⟩
    · rw [htargets, hd.traps]
    · rw [htargets] at hid'
      rcases List.mem_append.mp hid' with hold | hlast
      · exact hd.worth id' hold
      · exact List.mem_singleton.mp hlast ▸ hworth

/-! ## All turns -/

/-- **Turns keep traps in order.** -/
lemma Turns.trapped (h : d.Turns d') (hd : d.Sourced ∧ d.draft.Trapped) :
    d'.Sourced ∧ d'.draft.Trapped :=
  h.keeps (I := fun d => d.Sourced ∧ d.draft.Trapped)
    (fun hd hturn => ⟨hturn.sourced hd.1, hturn.trapped hd.1 hd.2⟩) hd

end Desk

end PanelPuzzle
