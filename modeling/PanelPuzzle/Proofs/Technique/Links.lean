import PanelPuzzle.Proofs.Making.Ledger
import PanelPuzzle.Proofs.Technique.Exact
import PanelPuzzle.Proofs.Technique.Pieces
/-!
# Linked switches

A pattern of switches is placed as far as there is room: each switch and its button compete for the same
cells, and the placing ends with the first switch that finds none.  `LinkedSwitch` is one switch with what
drives it, so that a pattern is a list of them, however far it came, and then perhaps a master.

* `TargetPattern.Ordered` — what a pattern says of the targets.
* `LinkedSwitch.Placed`, `Making.works_placed` — one switch.
* `LinkedSwitch.Row`, `Making.works_row` — **several switches,** by induction on their targets.
* `TargetPattern.Completes`, `switchPattern_complete` — the whole pattern with its master.
-/

namespace PanelPuzzle

variable {α β : Type}

/-! ## Targets -/

namespace TargetPattern

/-- **What a pattern says of the targets** of its switches, in the order in which these are placed. -/
def Ordered [LT α] : TargetPattern → List α → Prop
  | identical, targets => targets.Pairwise (· = ·)
  | increasing, targets => targets.Pairwise (· < ·)
  | decreasing, targets => targets.Pairwise (· > ·)
  | themeColored, _ => True

variable {pattern : TargetPattern}

/-- A pattern that ends early is a pattern. -/
lemma Ordered.of_isPrefix [LT α] {targets others : List α} (h : pattern.Ordered targets)
    (hinitial : others <+: targets) : pattern.Ordered others := by
  cases pattern with
  | identical | increasing | decreasing => exact List.Pairwise.sublist hinitial.sublist h
  | themeColored => trivial

lemma int32_ofNat_lt {m n : Nat} (hn : n ≤ 3) (h : m < n) : Int32.ofNat m < Int32.ofNat n := by
  rw [Int32.lt_iff_toInt_lt, Int32.toInt_ofNat_of_lt (by omega), Int32.toInt_ofNat_of_lt (by omega)]
  exact Int.ofNat_lt.mpr h

/-- Small targets are ordered as numbers of 32 bits too. -/
lemma Ordered.map_ofNat {targets : List Nat} (h : pattern.Ordered targets)
    (hsmall : ∀ target ∈ targets, target ≤ 3) : pattern.Ordered (targets.map Int32.ofNat) := by
  cases pattern with
  | identical => exact List.pairwise_map.mpr (List.Pairwise.imp (congrArg Int32.ofNat) h)
  | increasing =>
    exact List.pairwise_map.mpr (List.Pairwise.imp_of_mem (fun _ hn => int32_ofNat_lt (hsmall _ hn)) h)
  | decreasing =>
    exact List.pairwise_map.mpr (List.Pairwise.imp_of_mem (fun hm _ => int32_ofNat_lt (hsmall _ hm)) h)
  | themeColored => trivial

/-- **The targets of a pattern are as it says,** and not more than are asked for. -/
lemma keeps_ordered (pattern : TargetPattern) (count : Nat) :
    Keeps (fun _ => True) (pattern.targets count) fun targets =>
      pattern.Ordered targets ∧ targets.length ≤ count := by
  cases pattern with
  | identical =>
    refine .bind (.always _) fun target _ => .pure ⟨?_, List.length_replicate.le⟩
    exact List.pairwise_replicate_of_refl
  | increasing =>
    refine .pure ⟨List.pairwise_map.mpr (List.pairwise_lt_range.imp Nat.succ_lt_succ), ?_⟩
    rw [List.length_map, List.length_range]
    exact Nat.min_le_left _ _
  | decreasing =>
    refine .pure ⟨List.pairwise_map.mpr (List.pairwise_lt_range.imp_of_mem fun hi hj hlt => ?_), ?_⟩
    · have hi := List.mem_range.mp hi
      have hj := List.mem_range.mp hj
      omega
    · rw [List.length_map, List.length_range]
      exact Nat.min_le_left _ _
  | themeColored =>
    have hlength : ∀ n, Keeps (fun _ => True) (randomTargets n) fun targets => targets.length ≤ n := by
      intro n
      induction n with
      | zero => exact .pure le_rfl
      | succ n ih =>
        exact .bind (.always _) fun _ _ => .bind ih fun _ h => .pure (Nat.succ_le_succ h)
    exact (hlength count).weaken fun _ h => ⟨trivial, h⟩

end TargetPattern

/-! ## One switch -/

/-- **A linked switch** on its cells, and the button that drives it on a cell of its own, if there is
one. -/
structure LinkedSwitch where
  switch : Element
  cells : Rect
  button : Option (Element × Rect) := none

namespace LinkedSwitch

/-- The elements of a linked switch, in the order in which they are put on the panel. -/
def elements (s : LinkedSwitch) : List Element := s.switch :: (s.button.map (·.1)).toList

/-- The rectangles that are claimed for a linked switch, in order. -/
def claims (s : LinkedSwitch) : List Rect := s.cells :: (s.button.map (·.2)).toList

/-- **The player can bring a linked switch to its target:** by taps on it, or by taps on its button if it
has one. -/
structure Operable (s : LinkedSwitch) : Prop where
  shape_eq : s.switch.shape = .switch
  change_eq : s.switch.change = .state
  actions_eq : s.switch.actions = []
  driven : s.switch.method = .tap ∧ s.button = none ∨
    s.switch.method = .none ∧ ∃ button r, s.button = some (button, r) ∧
      button.method = .tap ∧ button.actions = [.cycle s.switch.id]

/-- **What the placing of a linked switch leaves.** -/
structure Placed (s : LinkedSwitch) (target : Nat) (d d' : Desk) : Prop where
  elements_eq : d'.elements = d.elements ++ s.elements
  grid_eq : d'.draft.grid = s.claims.foldl Grid.claim d.draft.grid
  free : d.draft.grid.isFree s.cells = true
  size : s.cells.w = 2 ∧ s.cells.h = 1
  target_eq : s.switch.target = Int32.ofNat target
  operable : s.Operable
  id_eq : s.switch.id = d.nextId .switch
  lastId_lt : d.lastId < d'.lastId

end LinkedSwitch

namespace Making

open Technique Desk

variable {d : Desk}

/-- **A button for an action** is round and can be tapped. -/
lemma Works.addTapButton {action : Action} {next : Option Nat → Making β} {Q : β → Desk → Prop}
    (hno : Works d (next none) Q)
    (hyes : ∀ r grid b, d.Claims r grid → b.method = .tap → b.actions = [action] →
      Works ((d.withGrid grid).tick.push b) (next (some d.elements.length)) Q) :
    Works d (Remote.addButton action >>= next) Q := by
  refine assoc (allocate (fun _ => hno) fun r grid hclaims _ _ => ?_)
  refine assoc (newElement (assoc (skip .randomColor fun color _ => assoc (push ?_))))
  exact hyes r grid _ hclaims rfl rfl

/-- The last element but one is changed. -/
lemma modify_before_last (es : List Element) (e last : Element) (change : Element → Element) :
    (es ++ [e] ++ [last]).modify es.length change = es ++ [change e] ++ [last] := by
  rw [← List.append_cons, List.modify_eq_take_drop, List.take_left, List.drop_left,
    List.modifyHead_cons, List.append_cons]

/-- **A linked switch is placed** if there is room for it. -/
lemma works_placed (pattern : TargetPattern) (target : Nat) (d : Desk) :
    Works d (Technique.placeLinked pattern target) fun placed d' =>
      placed = none ∧ d' = d ∧ d.draft.grid.Blocked 2 1 ∨
        ∃ s : LinkedSwitch, placed = some s.switch.id ∧ s.Placed target d d' := by
  refine .allocate (fun hfull => .pure (.inl ⟨rfl, rfl, ?_⟩)) fun r grid hclaims hw hh => ?_
  · have hblocked := hfull fits_switch
    rwa [KeepsExact.fits_switch.1] at hblocked
  rw [KeepsExact.fits_switch.1] at hw hh
  refine .newSwitch fun color => ?_
  extract_lets plain answered
  -- whatever is done to the switch, it becomes coverable at the end
  have hdone : ∀ {d₁ : Desk} {e : Element} {s : LinkedSwitch}, d₁.elements[d.elements.length]? = some e →
      s.switch.id = plain.id →
      s.Placed target d (d₁.addCoverable (Draft.coverableOf e d.elements.length .switch)) →
      Works d₁ (Making.cover d.elements.length .switch >>= answered) fun placed d' =>
        placed = none ∧ d' = d ∧ d.draft.grid.Blocked 2 1 ∨
          ∃ s : LinkedSwitch, placed = some s.switch.id ∧ s.Placed target d d' :=
    fun he hid hplaced => .cover he (.pure (.inr ⟨_, congrArg some hid.symm, hplaced⟩))
  clear_value answered
  have hplain : ∀ {e : Element}, e.id = plain.id → e.shape = .switch → e.change = .state →
      e.target = Int32.ofNat target → e.method = .tap → e.actions = [] →
      LinkedSwitch.Placed ⟨e, r, none⟩ target d ((d.withGrid grid).tick.pushCoverable e .switch) :=
    fun hid hshape hchange htarget hmethod hactions =>
      ⟨rfl, hclaims.grid_eq, hclaims.free, ⟨hw, hh⟩, htarget,
        ⟨hshape, hchange, hactions, .inl ⟨hmethod, rfl⟩⟩, hid, Nat.lt_succ_self _⟩
  -- a switch with a button is locked
  have hdriven : ∀ {e button : Element} {r' : Rect} {grid' : Grid}, e.id = plain.id → e.shape = .switch →
      e.change = .state → e.target = Int32.ofNat target → e.actions = [] →
      ((d.withGrid grid).tick.push e).Claims r' grid' → button.method = .tap →
      button.actions = [.cycle e.id] →
      LinkedSwitch.Placed ⟨e.locked, r, some (button, r')⟩ target d
        (((((d.withGrid grid).tick.push e).withGrid grid').tick.push button).lock d.elements.length
          |>.addCoverable (Draft.coverableOf e.locked d.elements.length .switch)) := by
    intro e button r' grid' hid hshape hchange htarget hactions hclaims' hmethod hcycle
    refine ⟨(modify_before_last d.elements e button Element.locked).trans (List.append_assoc ..), ?_,
      hclaims.free, ⟨hw, hh⟩, htarget,
      ⟨hshape, hchange, hactions, .inr ⟨rfl, button, r', rfl, hmethod, hcycle⟩⟩, hid, ?_⟩
    · exact hclaims'.grid_eq.trans (congrArg (Grid.claim · r') hclaims.grid_eq)
    · exact Nat.lt_succ_of_lt (Nat.lt_succ_self _)
  split
  · refine .skip .randomColor fun ball _ => .push (.addTapButton ?_ fun r' grid' button hclaims' hmethod
      hactions => ?_)
    · exact hdone List.getElem?_concat_length rfl (hplain rfl rfl rfl rfl rfl rfl)
    · refine .undrive (getElem?_append List.getElem?_concat_length [button]) rfl rfl ?_
      refine hdone ?_ rfl (hdriven rfl rfl rfl rfl rfl hclaims' hmethod hactions)
      exact (congrArg (·[d.elements.length]?) (modify_before_last d.elements _ button Element.locked)).trans
        (getElem?_append List.getElem?_concat_length [button])
  · exact .assoc (.push (hdone List.getElem?_concat_length rfl (hplain rfl rfl rfl rfl rfl rfl)))

end Making

/-! ## Several switches -/

namespace LinkedSwitch

/-- **Several linked switches,** placed one after the other. -/
structure Row (linked : List LinkedSwitch) (d d' : Desk) : Prop where
  elements_eq : d'.elements = d.elements ++ linked.flatMap elements
  grid_eq : d'.draft.grid = (linked.flatMap claims).foldl Grid.claim d.draft.grid
  operable : ∀ s ∈ linked, s.Operable
  nodup : (linked.map (·.switch.id)).Nodup
  /-- No number was given before. -/
  fresh : ∀ s ∈ linked, ¬ Named d.lastId s.switch.id

lemma Row.nil (d : Desk) : Row [] d d where
  elements_eq := (List.append_nil _).symm
  grid_eq := rfl
  operable _ hs := absurd hs List.not_mem_nil
  nodup := List.nodup_nil
  fresh _ hs := absurd hs List.not_mem_nil

/-- A switch comes before others, whose numbers are greater. -/
lemma Row.cons {s : LinkedSwitch} {linked : List LinkedSwitch} {target : Nat} {d d₁ d' : Desk}
    (hs : s.Placed target d d₁) (h : Row linked d₁ d') : Row (s :: linked) d d' where
  elements_eq := by rw [h.elements_eq, hs.elements_eq, List.flatMap_cons, List.append_assoc]
  grid_eq := by rw [h.grid_eq, hs.grid_eq, List.flatMap_cons, List.foldl_append]
  operable := List.forall_mem_cons.mpr ⟨hs.operable, h.operable⟩
  nodup := by
    refine List.nodup_cons.mpr ⟨fun hmem => ?_, h.nodup⟩
    obtain ⟨t, ht, hid⟩ := List.mem_map.mp hmem
    have hnamed : Named d₁.lastId s.switch.id :=
      ⟨.switch, d.lastId + 1, Nat.succ_pos _, hs.lastId_lt, hs.id_eq⟩
    exact h.fresh t ht (hid.symm ▸ hnamed)
  fresh := by
    refine List.forall_mem_cons.mpr ⟨fun hnamed => ?_, fun t ht hnamed => ?_⟩
    · exact hnamed.ne_next .switch hs.id_eq
    · exact h.fresh t ht (hnamed.mono (Nat.le_of_lt hs.lastId_lt))

/-- Whatever cycles a switch, among a switch and its button. -/
lemma Operable.filter_cycle {s : LinkedSwitch} (h : s.Operable) (id : String) :
    s.elements.filter (Action.cycle id ∈ ·.actions) =
      if s.switch.id = id then (s.button.map (·.1)).toList else [] := by
  have hswitch : Action.cycle id ∉ s.switch.actions := h.actions_eq ▸ List.not_mem_nil
  have hbutton : s.elements.filter (Action.cycle id ∈ ·.actions) =
      (s.button.map (·.1)).toList.filter (Action.cycle id ∈ ·.actions) :=
    List.filter_cons_of_neg (mt of_decide_eq_true hswitch)
  rw [hbutton]
  obtain ⟨-, hnone⟩ | ⟨-, button, r, hsome, -, hactions⟩ := h.driven
  · rw [hnone]
    exact (ite_self _).symm
  · have hcycle : Action.cycle id ∈ button.actions ↔ s.switch.id = id := by
      rw [hactions, List.mem_singleton, Action.cycle.injEq]
      exact eq_comm
    rw [hsome, Option.map_some, Option.toList_some, List.filter_singleton]
    simp only [hcycle]
    split <;> simp [*]

/-- **A switch is cycled by its button only.** -/
lemma filter_cycle {linked : List LinkedSwitch} (hoperable : ∀ s ∈ linked, s.Operable)
    (hids : (linked.map (·.switch.id)).Nodup) {s : LinkedSwitch} (hs : s ∈ linked) :
    (linked.flatMap elements).filter (Action.cycle s.switch.id ∈ ·.actions) =
      (s.button.map (·.1)).toList := by
  have hother : ∀ others : List LinkedSwitch, (∀ t ∈ others, t.Operable) →
      s.switch.id ∉ others.map (·.switch.id) →
      (others.flatMap elements).filter (Action.cycle s.switch.id ∈ ·.actions) = [] := by
    intro others hothers hnot
    rw [List.filter_flatMap, List.flatMap_eq_nil_iff]
    intro t ht
    have hne : t.switch.id ≠ s.switch.id := fun hid => hnot (hid ▸ List.mem_map_of_mem ht)
    rw [(hothers t ht).filter_cycle, if_neg hne]
  obtain ⟨before, after, rfl⟩ := List.append_of_mem hs
  rw [List.map_append, List.map_cons, List.nodup_append] at hids
  obtain ⟨-, hafter, hbefore⟩ := hids
  obtain ⟨hoperable', hs', hoperable''⟩ := List.forall_mem_append.mp hoperable |>.imp_right
    List.forall_mem_cons.mp
  rw [List.flatMap_append, List.filter_append, List.flatMap_cons, List.filter_append,
    hother before hoperable' fun hmem => hbefore _ hmem _ List.mem_cons_self rfl,
    hother after hoperable'' (List.nodup_cons.mp hafter).1, hs'.filter_cycle, if_pos rfl,
    List.append_nil, List.nil_append]

end LinkedSwitch

namespace Making

open Technique Desk LinkedSwitch

/-- **Linked switches are placed as long as there is room.** -/
lemma works_row (pattern : TargetPattern) : ∀ (targets : List Nat) (d : Desk),
    Works d (Technique.placeAllLinked pattern targets) fun ids d' => ∃ linked : List LinkedSwitch,
      ids = linked.map (·.switch.id) ∧ Row linked d d' ∧
        linked.map (·.switch.target) <+: targets.map Int32.ofNat ∧
        (targets ≠ [] → linked = [] → d.draft.grid.Blocked 2 1) ∧
        (linked ≠ [] → ∃ x y, d.draft.grid.isFree ⟨x, y, 2, 1⟩ = true)
  | [], d => .pure ⟨[], rfl, .nil d, List.prefix_rfl, absurd rfl, absurd rfl⟩
  | target :: targets, d => by
    refine .bind (works_placed pattern target d) fun placed d₁ hplaced => ?_
    obtain ⟨rfl, rfl, hblocked⟩ | ⟨s, rfl, hs⟩ := hplaced
    · exact .pure ⟨[], rfl, .nil _, List.nil_prefix, fun _ _ => hblocked, absurd rfl⟩
    · refine .bind (works_row pattern targets d₁) fun ids d' hmore => .pure ?_
      obtain ⟨linked, rfl, hrow, htargets, -, -⟩ := hmore
      refine ⟨s :: linked, rfl, hrow.cons hs, ?_, fun _ => nofun, fun _ => ?_⟩
      · rw [List.map_cons, List.map_cons, hs.target_eq]
        exact (List.cons_prefix_cons.mpr ⟨rfl, htargets⟩)
      · obtain ⟨⟨x, y, _, _⟩, hfree, rfl, rfl⟩ : ∃ r, d.draft.grid.isFree r = true ∧ r.w = 2 ∧ r.h = 1 :=
          ⟨s.cells, hs.free, hs.size⟩
        exact ⟨x, y, hfree⟩

/-! ## The master -/

/-- **A master is placed** if there is room for it. -/
lemma works_master (ids : List String) (d : Desk) :
    Works d (Technique.placeMaster ids) fun _ d' =>
      d' = d ∧ d.draft.grid.Blocked 2 1 ∨
        ∃ m r, d'.elements = d.elements ++ [m] ∧ d'.draft.grid = d.draft.grid.claim r ∧
          d.draft.grid.isFree r = true ∧ r.w = 2 ∧ r.h = 1 ∧ m.shape = .switch ∧ m.method = .tap ∧
          m.change = .state ∧ m.target = 1 ∧ m.actions = ids.map Action.link := by
  refine .allocate (fun hfull => .last (.skip (.note _) fun _ _ => .pure (.inl ⟨rfl, ?_⟩)))
    fun r grid hclaims hw hh => ?_
  · have hblocked := hfull fits_switch
    rwa [KeepsExact.fits_switch.1] at hblocked
  rw [KeepsExact.fits_switch.1] at hw hh
  refine .newSwitch fun color => .last (.pushCoverable (.pure (.inr ⟨_, r, rfl, hclaims.grid_eq,
    hclaims.free, hw, hh, rfl, rfl, rfl, rfl, ?_⟩)))
  exact List.nil_append _

end Making

/-! ## The whole pattern -/

/-- The pattern that is drawn first from a stream. -/
def TargetPattern.drawn (draws : Draws) : TargetPattern :=
  values.getD (Draws.below values.length draws).1 .identical

/-- **A pattern is complete.**  Between one and four linked switches are added, in an order that fits the
pattern, and each can be brought to its target.  If there is still room after them, there is a master that
is linked to all of them. -/
structure TargetPattern.Completes (pattern : TargetPattern) (d : Draft) (linked : List LinkedSwitch)
    (master : Option (Element × Rect)) (d' : Draft) : Prop where
  elements_eq : d'.elements =
    d.elements ++ (linked.flatMap LinkedSwitch.elements ++ (master.map (·.1)).toList)
  grid_eq : d'.grid =
    (linked.flatMap LinkedSwitch.claims ++ (master.map (·.2)).toList).foldl Grid.claim d.grid
  count : 1 ≤ linked.length ∧ linked.length ≤ 4
  targets : ∀ s ∈ linked, 1 ≤ s.switch.target ∧ s.switch.target ≤ 3
  ordered : pattern.Ordered (linked.map (·.switch.target))
  operable : ∀ s ∈ linked, s.Operable
  /-- A switch is cycled by its own button only. -/
  buttons : ∀ s ∈ linked,
    (linked.flatMap LinkedSwitch.elements ++ (master.map (·.1)).toList).filter
      (Action.cycle s.switch.id ∈ ·.actions) = (s.button.map (·.1)).toList
  master_iff : master.isSome = true ↔
    ∃ x y, ((linked.flatMap LinkedSwitch.claims).foldl Grid.claim d.grid).isFree ⟨x, y, 2, 1⟩ = true
  master_eq : ∀ m ∈ master, m.1.shape = .switch ∧ m.1.method = .tap ∧ m.1.change = .state ∧
    m.1.target = 1 ∧ m.1.actions = linked.map (.link ·.switch.id)

namespace LinkedSwitch

open Making

/-- **Linked switches and their master.**  The master finds room just if there is any left. -/
lemma Row.completes {pattern : TargetPattern} {linked : List LinkedSwitch} {targets : List Nat}
    {d d' : Desk} (h : Row linked d d') (hne : linked ≠ [])
    (hinitial : linked.map (·.switch.target) <+: targets.map Int32.ofNat)
    (hordered : pattern.Ordered targets) (hcount : targets.length ≤ 4)
    (hrange : ∀ target ∈ targets, 0 < target ∧ target ≤ 3) :
    Works d' (Technique.placeMaster (linked.map (·.switch.id))) fun _ d'' =>
      ∃ master, pattern.Completes d.draft linked master d''.draft := by
  have hlength := hinitial.length_le
  rw [List.length_map, List.length_map] at hlength
  have hbetween : ∀ s ∈ linked, 1 ≤ s.switch.target ∧ s.switch.target ≤ 3 := fun s hs => by
    obtain ⟨n, hn, htarget⟩ := List.mem_map.mp (hinitial.subset (List.mem_map_of_mem hs))
    obtain ⟨hlow, hhigh⟩ := hrange n hn
    rw [← htarget]
    obtain rfl | rfl | rfl : n = 1 ∨ n = 2 ∨ n = 3 := by omega
    all_goals decide
  have hfits := (hordered.map_ofNat fun n hn => (hrange n hn).2).of_isPrefix hinitial
  have hcycles : ∀ s ∈ linked, (linked.flatMap elements).filter (Action.cycle s.switch.id ∈ ·.actions) =
      (s.button.map (·.1)).toList := fun s => filter_cycle h.operable h.nodup
  refine (works_master _ d').weaken fun _ d'' hmaster => ?_
  obtain ⟨rfl, hblocked⟩ | ⟨m, r, helements, hgrid, hfree, hw, hh, hshape, hmethod, hchange, htarget,
    hactions⟩ := hmaster
  · refine ⟨none, ?_, ?_, ⟨List.length_pos_iff.mpr hne, hlength.trans hcount⟩, hbetween, hfits,
      h.operable, fun s hs => ?_, ?_, fun m hm => absurd hm (Option.not_mem_none m)⟩
    · rw [Option.map_none, Option.toList_none, List.append_nil]
      exact h.elements_eq
    · rw [Option.map_none, Option.toList_none, List.append_nil]
      exact h.grid_eq
    · rw [Option.map_none, Option.toList_none, List.append_nil]
      exact hcycles s hs
    · refine iff_of_false Bool.false_ne_true ?_
      rintro ⟨x, y, hfree⟩
      rw [← h.grid_eq, hblocked _ rfl rfl] at hfree
      exact Bool.false_ne_true hfree
  · refine ⟨some (m, r), ?_, ?_, ⟨List.length_pos_iff.mpr hne, hlength.trans hcount⟩, hbetween, hfits,
      h.operable, fun s hs => ?_, ?_, ?_⟩
    · exact (helements.trans (congrArg (· ++ [m]) h.elements_eq)).trans (List.append_assoc ..)
    · rw [List.foldl_append, ← h.grid_eq]
      exact hgrid
    · rw [List.filter_append, hcycles s hs]
      have hlinks : Action.cycle s.switch.id ∉ m.actions := by
        rw [hactions, List.mem_map]
        rintro ⟨id, -, hid⟩
        cases hid
      refine (congrArg _ (List.filter_eq_nil_iff.mpr ?_)).trans (List.append_nil _)
      exact List.forall_mem_singleton.mpr (mt of_decide_eq_true hlinks)
    · refine iff_of_true rfl ⟨r.x, r.y, ?_⟩
      rw [← h.grid_eq, ← hw, ← hh]
      exact hfree
    · rintro _ ⟨⟩
      refine ⟨hshape, hmethod, hchange, htarget, hactions.trans ?_⟩
      rw [List.map_map]
      rfl

end LinkedSwitch

namespace Technique

open Making

/-- The placing of a pattern that is drawn already. -/
def placePattern (pattern : TargetPattern) : Making Bool := do
  let count ← Draws.inRange 2 4
  let targets ← pattern.targets count
  Making.note (.switchPattern pattern targets)
  let linked ← placeAllLinked pattern targets
  if linked = [] then pure false
  else
    placeMaster linked
    pure true

/-- A pattern is drawn first, and then placed. -/
lemma switchPattern_eq (b : Workbench) :
    switchPattern b = placePattern (.drawn b.session.draws) ⟨b.draft, { b.session with
      draws := (Draws.below TargetPattern.values.length b.session.draws).2 }⟩ := rfl

/-- What becomes of a desk when a pattern is placed on it. -/
lemma works_placePattern (pattern : TargetPattern) (d : Desk) :
    Works d (placePattern pattern) fun applied d' =>
      applied = false ∧ d.draft.grid.Blocked 2 1 ∨
        applied = true ∧ (∃ x y, d.draft.grid.isFree ⟨x, y, 2, 1⟩ = true) ∧
          ∃ linked master, pattern.Completes d.draft linked master d'.draft := by
  refine .skip (.draws (Draws.keeps_inRange_of_le (by decide))) fun count hcount => ?_
  have hdrawn : Keeps (fun _ => True) (pattern.targets count) fun targets =>
      (targets ≠ [] ∧ ∀ target ∈ targets, 0 < target ∧ target ≤ 3) ∧
        pattern.Ordered targets ∧ targets.length ≤ count := fun draws hdraws =>
    ⟨⟨(keeps_targets pattern (by omega) draws hdraws).1, (pattern.keeps_ordered count draws hdraws).1⟩,
      trivial⟩
  refine .skip (.draws hdrawn) fun targets htargets => .skip (.note _) fun _ _ => ?_
  obtain ⟨⟨hne, hrange⟩, hordered, hlength⟩ := htargets
  refine .bind (works_row pattern targets d) fun ids d₁ hlinked => ?_
  obtain ⟨linked, rfl, hrow, hinitial, hblocked, hfree⟩ := hlinked
  split
  · rename_i hnil
    exact .pure (.inl ⟨rfl, hblocked hne (List.map_eq_nil_iff.mp hnil)⟩)
  · rename_i hsome
    have hsome' : linked ≠ [] := fun hnil => hsome (List.map_eq_nil_iff.mpr hnil)
    refine .bind (hrow.completes hsome' hinitial hordered (hlength.trans hcount.2) hrange) ?_
    exact fun _ d' hmaster => .pure (.inr ⟨rfl, hfree hsome', linked, hmaster⟩)

/-- **A pattern of switches is complete and operable.**  It is placed just if a block of two cells is free.
Then it has one to four linked switches with targets as the drawn pattern says.  Each of them is driven by
taps, or by one button.  And there is a master, linked to all of them in the order in which they were
placed, just if there is a free block after them. -/
theorem switchPattern_complete (b : Workbench) :
    ((switchPattern b).1 = true ↔ ∃ x y, b.draft.grid.isFree ⟨x, y, 2, 1⟩ = true) ∧
    ((switchPattern b).1 = true → ∃ linked master,
      (TargetPattern.drawn b.session.draws).Completes b.draft linked master
        (switchPattern b).2.draft) := by
  rw [switchPattern_eq]
  obtain ⟨hrefused, hblocked⟩ | ⟨happlied, hfree, hcomplete⟩ :=
    works_placePattern (.drawn b.session.draws) b.desk ⟨b.draft, { b.session with
      draws := (Draws.below TargetPattern.values.length b.session.draws).2 }⟩ rfl
  · refine ⟨iff_of_false (hrefused ▸ Bool.false_ne_true) ?_, fun htrue => ?_⟩
    · rintro ⟨x, y, hfree⟩
      exact Bool.false_ne_true ((hblocked _ rfl rfl).symm.trans hfree)
    · exact absurd (hrefused.symm.trans htrue) Bool.false_ne_true
  · exact ⟨iff_of_true happlied hfree, fun _ => hcomplete⟩

/-- On an empty panel there is room for a pattern. -/
theorem switchPattern_complete_new : ∃ b : Workbench, b.draft = .new 0 "blue" ∧
    (switchPattern b).1 = true ∧ ∃ linked master,
      (TargetPattern.drawn b.session.draws).Completes b.draft linked master
        (switchPattern b).2.draft := by
  obtain ⟨happlied, hcomplete⟩ := switchPattern_complete ⟨.new 0 "blue",
    { draws := .ofWords fun _ => 0, profile := .ofDifficulty .medium }⟩
  have htrue := happlied.mpr ⟨0, 0, by decide +kernel⟩
  exact ⟨_, rfl, htrue, hcomplete htrue⟩

end Technique

end PanelPuzzle
