import PanelPuzzle.Proofs.Making.Ledger
import PanelPuzzle.Proofs.Making.Mechanisms
import PanelPuzzle.Proofs.Making.Turns
/-!
# Mechanisms on a desk

The parts on a panel are those of a list of mechanisms, and there are as many of them as slots are taken.
What can be controlled next is kept as well: a plug that waits, or that is on the panel and can be covered
but is controlled by nothing.  These ids and those that are controlled already form one multiset without
repetitions.  A plug is moved in it from one side to the other, and no id comes in but the next one.

* `Desk.Sourced` — what is known of plugs that can be covered.
* `Desk.WiredBy` — the mechanisms of a desk.
* `Desk.Turn.wired` — **a turn keeps mechanisms apart,** and adds one at most.
-/

namespace PanelPuzzle

/-- Ids that are made of numbers up to `n`, none of them twice. -/
structure Given (n : Nat) (ids : Multiset String) : Prop where
  nodup : ids.Nodup
  named : ∀ id ∈ ids, Named n id

namespace Given

variable {n m : Nat} {ids others : Multiset String}

lemma mono (h : Given n ids) (hle : others ≤ ids) (hn : n ≤ m) : Given m others :=
  ⟨Multiset.nodup_of_le hle h.nodup, fun id hid => (h.named id (Multiset.mem_of_le hle hid)).mono hn⟩

/-- **The next id** is not among them. -/
lemma next (h : Given n ids) (shape : Shape) : Given (n + 1) (shape.idOf (n + 1) ::ₘ ids) := by
  refine ⟨Multiset.nodup_cons.mpr ⟨fun hmem => (h.named _ hmem).ne_next shape rfl, h.nodup⟩, ?_⟩
  refine Multiset.forall_mem_cons.mpr ⟨⟨shape, n + 1, Nat.succ_pos n, le_rfl, rfl⟩, fun id hid => ?_⟩
  exact (h.named id hid).mono (Nat.le_succ n)

end Given

/-! ## What can be controlled -/

/-- The id of a plug that can be covered, if nothing controls it yet. -/
def Coverable.loose? (c : Coverable) : Option String :=
  if c.role = .plug ∧ c.hasRemote = false then some c.id else none

namespace Desk

variable {d d' : Desk}

/-- The ids of the plugs on the panel that nothing controls yet, and of those that wait. -/
def loose (d : Desk) : Multiset String :=
  (d.draft.coverables.filterMap Coverable.loose? : List String) + d.pool.map (·.element.id)

lemma loose_addCoverable_of_none {c : Coverable} (h : c.loose? = none) :
    (d.addCoverable c).loose = d.loose := by
  have hcoverables : (d.addCoverable c).draft.coverables.filterMap Coverable.loose? =
      d.draft.coverables.filterMap Coverable.loose? := by
    change (d.draft.coverables ++ [c]).filterMap _ = _
    rw [List.filterMap_append, List.filterMap_cons_none h, List.filterMap_nil, List.append_nil]
  rw [loose, hcoverables]
  rfl

/-- **A plug that is put on the panel** can be controlled as it could before. -/
lemma loose_place {p : Plug} {rest : Multiset Plug} {e : Element} {c : Coverable}
    (htaken : d.TakenAs p rest e) (hc : c.loose? = some e.id) :
    ((d.withPool rest).addCoverable c).loose = d.loose := by
  have hcoverables : (d.draft.coverables ++ [c]).filterMap Coverable.loose? =
      d.draft.coverables.filterMap Coverable.loose? ++ [e.id] := by
    rw [List.filterMap_append, List.filterMap_cons_some hc, List.filterMap_nil]
  change (((d.draft.coverables ++ [c]).filterMap _ : List String) : Multiset String) + _ = _
  rw [hcoverables, loose, htaken.pool, Multiset.map_cons, ← htaken.id_eq, ← Multiset.coe_add, add_assoc,
    Multiset.coe_singleton, Multiset.singleton_add]
  rfl

/-- A plug that leaves the pool. -/
lemma cons_loose_withPool {p : Plug} {rest : Multiset Plug} {e : Element} (htaken : d.TakenAs p rest e) :
    e.id ::ₘ (d.withPool rest).loose = d.loose := by
  rw [loose, loose, htaken.pool, Multiset.map_cons, ← htaken.id_eq, Multiset.add_cons]
  rfl

/-- **A plug that is taken over** can be controlled no more. -/
lemma cons_loose_takeOver {target source : Nat} {c : Coverable}
    (hc : d.draft.coverables[target]? = some c) (hloose : c.loose? = some c.id) :
    c.id ::ₘ (d.takeOver target source).loose = d.loose := by
  obtain ⟨before, after, heq, hmodify⟩ := exists_modify_eq hc fun c => { c with hasRemote := true }
  have hcontrolled : Coverable.loose? { c with hasRemote := true } = none := if_neg (by simp)
  change c.id ::ₘ
    ((((d.draft.coverables.modify target _).filterMap _ : List String) : Multiset String) + _) = _
  rw [hmodify, loose, heq, List.filterMap_append, List.filterMap_append,
    List.filterMap_cons_none hcontrolled, List.filterMap_cons_some hloose, ← Multiset.cons_add,
    Multiset.cons_coe, Multiset.coe_eq_coe.mpr List.perm_middle]
  rfl

/-- What a coverable is to be controlled by does not change when its size is. -/
lemma loose_obscured (target : Nat) :
    (d.alter (·.modifyCoverable target fun c => { c with sizeObscured := true })).loose = d.loose := by
  cases hc : d.draft.coverables[target]? with
  | none =>
    have hsame : d.draft.coverables.modify target (fun c => { c with sizeObscured := true }) =
        d.draft.coverables := List.modify_eq_self (List.getElem?_eq_none_iff.mp hc)
    change (((d.draft.coverables.modify target _).filterMap _ : List String) : Multiset String) + _ = _
    rw [hsame]
    rfl
  | some c =>
    obtain ⟨before, after, heq, hmodify⟩ := exists_modify_eq hc fun c => { c with sizeObscured := true }
    change (((d.draft.coverables.modify target _).filterMap _ : List String) : Multiset String) + _ = _
    rw [hmodify, loose, heq, List.filterMap_append, List.filterMap_append]
    rfl

/-! ## Sources -/

/-- The element of a coverable plug can be locked, and has the id of the coverable. -/
def Sourced (d : Desk) : Prop := ∀ c ∈ d.draft.coverables, c.role = .plug → ∀ place ∈ c.source,
  ∃ e, d.elements[place]? = some e ∧ e.id = c.id ∧ e.Lockable

lemma Sourced.source (h : d.Sourced) {target source : Nat} {c : Coverable} {e : Element}
    (hsource : d.SourceAt target c source e) (hrole : c.role = .plug) : e.id = c.id ∧ e.Lockable := by
  obtain ⟨e', he', hid, hlockable⟩ := h c (List.mem_of_getElem? hsource.coverable) hrole source
    hsource.source_eq
  obtain rfl := Option.some.inj (hsource.element.symm.trans he')
  exact ⟨hid, hlockable⟩

/-- Coverables that were there, or tell the same. -/
lemma Sourced.turn (h : d.Sourced) (hturn : d.Turn d')
    (hsame : ∀ c' ∈ d'.draft.coverables, c'.role = .plug →
      ∃ c ∈ d.draft.coverables, c.role = .plug ∧ c.id = c'.id ∧ c.source = c'.source) :
    d'.Sourced := by
  intro c' hc' hrole place hplace
  obtain ⟨c, hc, hrole', hid, hsource⟩ := hsame c' hc' hrole
  obtain ⟨e, he, hid', hlockable⟩ := h c hc hrole' place (hsource ▸ hplace)
  obtain ⟨e', he', hstays⟩ := hturn.stays he
  exact ⟨e', he', hstays.id_eq.trans (hid'.trans hid), hstays.lockable hlockable⟩

/-- Coverables that were changed in what controls them, or in their sizes. -/
lemma Sourced.turn_modify (h : d.Sourced) (hturn : d.Turn d') {target : Nat}
    {change : Coverable → Coverable} (heq : d'.draft.coverables = d.draft.coverables.modify target change)
    (hchange : ∀ c, (change c).role = c.role ∧ (change c).id = c.id ∧ (change c).source = c.source) :
    d'.Sourced := by
  refine h.turn hturn fun c' hc' hrole => ?_
  obtain ⟨c, hc, rfl | rfl⟩ := Scene.exists_of_mem_modify (heq ▸ hc')
  · exact ⟨c', hc, hrole, rfl, rfl⟩
  · obtain ⟨hrole', hid, hsource⟩ := hchange c
    exact ⟨c, hc, hrole'.symm.trans hrole, hid.symm, hsource.symm⟩

/-- A plug that comes with its element. -/
lemma Sourced.turn_place (h : d.Sourced) (hturn : d.Turn d') {e : Element} {c : Coverable}
    (heq : d'.draft.coverables = d.draft.coverables ++ [c]) (hid : c.id = e.id)
    (hsource : c.source = some d.elements.length)
    (he : d'.elements[d.elements.length]? = some e) (hlockable : e.Lockable) : d'.Sourced := by
  intro c' hc' hrole place hplace
  rw [heq] at hc'
  rcases List.mem_append.mp hc' with hold | hnew
  · obtain ⟨e', he', hid', hlockable'⟩ := h c' hold hrole place hplace
    obtain ⟨e'', he'', hstays⟩ := hturn.stays he'
    exact ⟨e'', he'', hstays.id_eq.trans hid', hstays.lockable hlockable'⟩
  · obtain rfl := List.mem_singleton.mp hnew
    obtain rfl : d.elements.length = place := Option.some.inj (hsource.symm.trans hplace)
    exact ⟨e, he, hid.symm, hlockable⟩

lemma Turn.sourced (hturn : d.Turn d') (h : d.Sourced) : d'.Sourced := by
  have hkeep := hturn
  cases hturn with
  | claim | require | add | deposit | fill | key | lid | lock | trap =>
    exact h.turn hkeep fun c hc hrole => ⟨c, hc, hrole, rfl, rfl⟩
  | cover hnot =>
    refine h.turn hkeep fun c hc hrole => ?_
    rcases List.mem_append.mp hc with hold | hnew
    · exact ⟨c, hold, hrole, rfl, rfl⟩
    · rw [List.mem_singleton.mp hnew] at hrole
      exact absurd hrole hnot
  | place _ hlockable =>
    exact h.turn_place hkeep rfl rfl rfl List.getElem?_concat_length hlockable
  | placeSteered _ hlockable =>
    exact h.turn_place hkeep rfl rfl rfl (getElem?_append List.getElem?_concat_length _) hlockable
  | steer | release => exact h.turn_modify hkeep rfl fun _ => ⟨rfl, rfl, rfl⟩
  | obscure => exact h.turn_modify hkeep rfl fun _ => ⟨rfl, rfl, rfl⟩

/-! ## The mechanisms of a desk -/

/-- **The mechanisms of a desk.** -/
structure WiredBy (d : Desk) (ms : List Mechanism) : Prop where
  parts : d.elements.flatMap Element.parts = ms.flatMap Mechanism.parts
  count : d.draft.remoteSets = ms.length
  few : ms.length ≤ maxRemoteSets
  given : Given d.lastId ((ms.map Mechanism.target : List String) + d.loose)

namespace WiredBy

variable {ms : List Mechanism}

/-- Nothing is done to the mechanisms. -/
lemma idle (h : d.WiredBy ms)
    (hparts : d'.elements.flatMap Element.parts = d.elements.flatMap Element.parts)
    (hsets : d'.draft.remoteSets = d.draft.remoteSets) (hloose : d'.loose ≤ d.loose)
    (hlast : d.lastId ≤ d'.lastId) : d'.WiredBy ms :=
  ⟨hparts.trans h.parts, hsets.trans h.count, h.few, h.given.mono (add_le_add_right hloose _) hlast⟩

/-- **A mechanism is added** while there is a slot. -/
lemma add (h : d.WiredBy ms) {m : Mechanism} (hslot : d.draft.hasRemoteSlot = true)
    (hparts : d'.elements.flatMap Element.parts = d.elements.flatMap Element.parts ++ m.parts)
    (hsets : d'.draft.remoteSets = d.draft.remoteSets + 1)
    (hgiven : Given d'.lastId (m.target ::ₘ ((ms.map Mechanism.target : List String) + d'.loose))) :
    d'.WiredBy (ms ++ [m]) where
  parts := by rw [hparts, h.parts, List.flatMap_append, List.flatMap_singleton]
  count := by rw [hsets, h.count, List.length_append, List.length_singleton]
  few := by
    rw [List.length_append, List.length_singleton, ← h.count]
    exact of_decide_eq_true hslot
  given := by
    rw [List.map_append, List.map_singleton, ← Multiset.coe_add, add_assoc, Multiset.coe_singleton,
      Multiset.singleton_add, Multiset.add_cons]
    exact hgiven

/-- A mechanism for what can be controlled. -/
lemma handOver (h : d.WiredBy ms) {m : Mechanism} (hslot : d.draft.hasRemoteSlot = true)
    (hparts : d'.elements.flatMap Element.parts = d.elements.flatMap Element.parts ++ m.parts)
    (hsets : d'.draft.remoteSets = d.draft.remoteSets + 1) (hloose : m.target ::ₘ d'.loose = d.loose)
    (hlast : d.lastId ≤ d'.lastId) : d'.WiredBy (ms ++ [m]) := by
  refine h.add hslot hparts hsets ?_
  rw [← Multiset.add_cons, hloose]
  exact h.given.mono le_rfl hlast

lemma named_of_loose (h : d.WiredBy ms) {id : String} (hid : id ∈ d.loose) : Named d.lastId id :=
  h.given.named id (Multiset.mem_add.mpr (.inr hid))

end WiredBy

lemma flatMap_parts_control (d : Desk) (r : Rect) (grid : Grid) (color : UInt8) (id : String) :
    (d.control r grid color id).elements.flatMap Element.parts =
      d.elements.flatMap Element.parts ++ (Mechanism.quartet id).parts := by
  rw [← Mechanism.parts_quartet r color id d.lastId, ← List.flatMap_append]
  rfl

/-- The locking of an element that does nothing. -/
lemma flatMap_parts_lock {source : Nat} {e : Element} (he : d.elements[source]? = some e)
    (hactions : e.actions = []) :
    (d.lock source).elements.flatMap Element.parts = d.elements.flatMap Element.parts := by
  refine Element.flatMap_parts_modify he ?_
  rw [Element.parts_eq_nil_of_actions hactions]
  exact Element.parts_eq_nil_of_actions hactions

/-- **A turn keeps mechanisms apart,** and adds one at most. -/
lemma Turn.wired (hturn : d.Turn d') (hsourced : d.Sourced) {ms : List Mechanism} (h : d.WiredBy ms) :
    ∃ ms', d'.WiredBy ms' := by
  cases hturn with
  | claim | require | fill => exact ⟨ms, h.idle rfl rfl le_rfl le_rfl⟩
  | add _ hinert =>
    exact ⟨ms, h.idle (Element.flatMap_parts_append hinert.parts_eq_nil) rfl le_rfl (Nat.le_succ _)⟩
  | trap _ _ hactions =>
    have hparts := Element.parts_eq_nil_of_singleton hactions ⟨rfl, nofun⟩
    exact ⟨ms, h.idle (Element.flatMap_parts_append hparts) rfl le_rfl (Nat.le_succ _)⟩
  | @deposit p hp =>
    have hloose : (d.tick.deposit p).loose = d.nextId p.element.shape ::ₘ d.loose := by
      rw [loose, ← hp.id_eq]
      exact (congrArg _ (Multiset.map_cons _ _ _)).trans (Multiset.add_cons _ _ _)
    refine ⟨ms, h.parts, h.count, h.few, ?_⟩
    rw [hloose, Multiset.add_cons]
    exact h.given.next _
  | cover hrole =>
    exact ⟨ms, h.idle rfl rfl (loose_addCoverable_of_none (if_neg fun hc => hrole hc.1)).le le_rfl⟩
  | key htaken hinert =>
    refine ⟨ms, h.idle (Element.flatMap_parts_append hinert.parts_eq_nil) rfl ?_ le_rfl⟩
    exact (Multiset.le_cons_self _ _).trans_eq (cons_loose_withPool htaken)
  | place htaken hlockable =>
    refine ⟨ms, h.idle (Element.flatMap_parts_append (Element.parts_eq_nil_of_actions hlockable.actions)) rfl
      ?_ le_rfl⟩
    exact (loose_place htaken rfl).le
  | @placeSteered p rest e r grid color htaken hlockable hslot _ =>
    refine ⟨_, h.handOver (m := .quartet e.id) hslot ?_ rfl ?_ (Nat.le_add_right _ _)⟩
    · refine (flatMap_parts_control _ r grid color e.id).trans (congrArg (· ++ _) ?_)
      exact Element.flatMap_parts_append (Element.parts_eq_nil_of_actions hlockable.actions)
    · rw [← cons_loose_withPool htaken]
      exact congrArg _ (loose_addCoverable_of_none (if_neg (by simp)))
  | @lid e r grid color hid hactions hslot _ =>
    refine ⟨_, h.add (m := .quartet e.id) hslot ?_ rfl ?_⟩
    · refine (flatMap_parts_control _ r grid color e.id).trans (congrArg (· ++ _) ?_)
      exact Element.flatMap_parts_append (Element.parts_eq_nil_of_actions hactions)
    · change Given _ (e.id ::ₘ _)
      rw [hid]
      exact (h.given.next e.shape).mono le_rfl (Nat.le_add_right _ _)
  | @steer target source c e r grid color hsource hrole hremote hslot _ =>
    obtain ⟨hid, -, hactions⟩ := hsourced.source hsource hrole
    refine ⟨_, h.handOver (m := .quartet e.id) hslot ?_ rfl ?_ (Nat.le_add_right _ _)⟩
    · refine (flatMap_parts_lock (getElem?_append hsource.element _) hactions).trans ?_
      exact flatMap_parts_control d r grid color e.id
    · rw [hid]
      exact cons_loose_takeOver (d := d.control r grid color c.id) hsource.coverable
        (if_pos ⟨hrole, hremote⟩)
  | @release target source c e switch hsource hrole hremote hslot hswitch hshape hmethod hacts =>
    obtain ⟨hid, -, hactions⟩ := hsourced.source hsource hrole
    have hloose : e.id ::ₘ ((d.tick.push switch).addRemote.takeOver target source).loose = d.loose := by
      rw [hid]
      exact cons_loose_takeOver (d := (d.tick.push switch).addRemote) hsource.coverable
        (if_pos ⟨hrole, hremote⟩)
    have hother : e.id ≠ switch.id := by
      rw [hswitch]
      exact (h.named_of_loose (hloose ▸ Multiset.mem_cons_self _ _)).ne_next .switch
    refine ⟨_, h.handOver (m := .release e.id) hslot ?_ rfl hloose (Nat.le_succ _)⟩
    refine (flatMap_parts_lock (getElem?_append hsource.element _) hactions).trans ?_
    rw [← Mechanism.parts_release hshape hmethod hacts hother]
    exact List.flatMap_append.trans (congrArg _ (List.flatMap_singleton ..))
  | lock he hlockable => exact ⟨ms, h.idle (flatMap_parts_lock he hlockable.actions) rfl le_rfl le_rfl⟩
  | obscure hsource _ _ hactions =>
    refine ⟨ms, h.idle ?_ rfl (loose_obscured _).le (Nat.le_succ _)⟩
    refine (Element.flatMap_parts_modify (getElem?_append hsource.element _) rfl).trans ?_
    exact Element.flatMap_parts_append (Element.parts_eq_nil_of_singleton hactions ⟨rfl, nofun⟩)

/-- A desk with mechanisms that can go on. -/
structure Wired (d : Desk) : Prop where
  sourced : d.Sourced
  wired : ∃ ms, d.WiredBy ms

lemma Wired.turns (h : d.Wired) (hturns : d.Turns d') : d'.Wired :=
  hturns.keeps (fun hd hturn =>
    ⟨hturn.sourced hd.sourced, hd.wired.elim fun _ => hturn.wired hd.sourced⟩) h

/-- **What a player sees** of the mechanisms, and what the slots tell of them. -/
lemma Wired.wellControlled (h : d.Wired) :
    d.draft.panel.WellControlled ∧ d.draft.panel.remoteCount = d.draft.remoteSets := by
  obtain ⟨ms, hms⟩ := h.wired
  have hapart : (ms.map Mechanism.target).Nodup :=
    Multiset.coe_nodup.mp (Multiset.nodup_of_le (Multiset.le_add_right _ _) hms.given.nodup)
  exact ⟨Panel.wellControlled hms.parts hapart hms.few,
    (Panel.remoteCount_eq hms.parts hapart).trans hms.count.symm⟩

end Desk

end PanelPuzzle
