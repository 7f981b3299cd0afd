import PanelPuzzle.Proofs.Draws.Bounds
import PanelPuzzle.Proofs.Maze.Rooms
/-!
# Carving as a loop

Carving goes through the rooms depth first.  `Carving.Walk` is what its loop keeps: the path back to the
first room and the cells that are open.  `Carving.turn` is one turn of the loop and `Carving.after` is any
number of them.

**The invariant.**  A walk is `Sound` if the open cells form a tree, each of them is a room or lies between
two open rooms, and every open room that is no longer on the path has open rooms around it only.  A turn
opens two leaves: the cell between two rooms touches no open cell but the first of them, and the second
room touches no open cell but the one between.

**The number of turns.**  Every turn enters a room for the first time or leaves it for the last time, so
the turns, the length of the path and one make up twice the number of open rooms.

* `walk_eq` — the walk through the rooms is this loop.
* `carving_ends` — **the loop ends after twice the number of rooms less one turns.**
-/

namespace PanelPuzzle

variable {width height : Nat}

namespace Carving

open MazeLayout

/-! ## The loop -/

/-- What the loop keeps: the path back to the first room, the last room first, and the open cells. -/
structure Walk where
  path : List Cell
  opened : List Cell

/-- **One turn of the loop.**  It enters a closed room next to the last one, or leaves the last one. -/
def turn (width height : Nat) (s : Walk) : StateM Draws Walk :=
  match s.path with
  | [] => pure s
  | room :: path => do
    let closed := (nextRooms width height room).filter fun next => !s.opened.contains next
    match ← Draws.choose closed with
    | some next => pure ⟨next :: room :: path, s.opened ++ [between room next, next]⟩
    | none => pure ⟨path, s.opened⟩

/-- A number of turns. -/
def after (width height : Nat) : Nat → Walk → StateM Draws Walk
  | 0, s => pure s
  | n + 1, s => do
    let s ← turn width height s
    after width height n s

/-- The loop has ended when the path is empty. -/
lemma after_of_path_eq_nil {s : Walk} (h : s.path = []) : ∀ n, after width height n s = pure s
  | 0 => rfl
  | n + 1 => by
    rw [after, turn, h]
    exact after_of_path_eq_nil h n

/-- **The walk through the rooms is the loop.** -/
lemma walk_eq (n : Nat) (path opened : List Cell) :
    walk width height n path opened = (do
      let s ← after width height n ⟨path, opened⟩
      pure s.opened) := by
  induction n generalizing path opened with
  | zero => rfl
  | succ n ih =>
    cases path with
    | nil => rw [after_of_path_eq_nil rfl]; rfl
    | cons room path =>
      rw [walk, after, turn, bind_assoc, bind_assoc]
      refine bind_congr fun found => ?_
      cases found with
      | some next => exact ih _ _
      | none => exact ih _ _

/-! ## The invariant -/

/-- Whether a cell is a room. -/
def isRoom (width height : Nat) (c : Cell) : Bool := (rooms width height).contains c

lemma isRoom_iff {c : Cell} : isRoom width height c = true ↔ c ∈ rooms width height := by
  simp [isRoom]

/-- The rooms among some cells. -/
def roomsIn (width height : Nat) (cells : List Cell) : List Cell := cells.filter (isRoom width height)

/-- **What is kept by every turn.** -/
structure Sound (width height : Nat) (s : Walk) : Prop where
  nodup : s.opened.Nodup
  isTree : IsTree s.opened
  /-- What is no room lies between two open rooms. -/
  passage : ∀ c ∈ s.opened, c ∈ rooms width height ∨
    ∃ a b, Joined width height a b ∧ a ∈ s.opened ∧ b ∈ s.opened ∧ c = between a b
  path : ∀ c ∈ s.path, c ∈ rooms width height ∧ c ∈ s.opened
  /-- The rooms next to a room that was left are open. -/
  left : ∀ a b, Joined width height a b → a ∈ s.opened → a ∉ s.path → b ∈ s.opened
  exists_room : ∃ c ∈ s.opened, c ∈ rooms width height
  /-- Every room but the first is opened with the cell before it. -/
  length_opened : s.opened.length + 1 = 2 * (roomsIn width height s.opened).length

lemma sound_first {c : Cell} (hc : c ∈ rooms width height) : Sound width height ⟨[c], [c]⟩ where
  nodup := List.nodup_singleton c
  isTree := isTree_singleton c
  passage d hd := Or.inl (List.mem_singleton.mp hd ▸ hc)
  path d hd := ⟨List.mem_singleton.mp hd ▸ hc, hd⟩
  left a b _ ha hnot := absurd ha hnot
  exists_room := ⟨c, List.mem_singleton_self c, hc⟩
  length_opened := by
    rw [roomsIn, List.filter_singleton, isRoom_iff.mpr hc]
    rfl

namespace Sound

variable {s : Walk} {room next : Cell} {path : List Cell}

/-- The cell before a closed room is closed, and of the open cells it touches only the room from which
it is entered. -/
lemma between_leaf (h : Sound width height s) (hjoined : Joined width height room next)
    (hclosed : next ∉ s.opened) :
    between room next ∉ s.opened ∧ ∀ c ∈ s.opened, Beside c (between room next) → c = room := by
  have hodd := hjoined.odd_between
  constructor
  · intro hmem
    rcases h.passage _ hmem with hroom | ⟨a, b, hab, ha, hb, heq⟩
    · exact hjoined.between_not_mem hroom
    · -- the two rooms beside a cell are the two that it lies between
      rcases hab.eq_or_eq hjoined.right (heq ▸ hjoined.beside.2.symm) with rfl | rfl
      · exact hclosed ha
      · exact hclosed hb
  · intro c hc hbeside
    rcases h.passage c hc with hroom | ⟨a, b, hab, -, -, rfl⟩
    · rcases hjoined.eq_or_eq hroom hbeside with heq | rfl
      · exact heq
      · exact absurd hc hclosed
    · have := hab.odd_between
      have := hbeside.parity
      omega

/-- Of the open cells a closed room touches only the one before it. -/
lemma next_leaf (h : Sound width height s) (hjoined : Joined width height room next)
    (hclosed : next ∉ s.opened) :
    next ∉ s.opened ++ [between room next] ∧
      ∀ c ∈ s.opened ++ [between room next], Beside c next → c = between room next := by
  have hroom := mem_rooms.mp hjoined.right
  constructor
  · intro hmem
    rcases List.mem_append.mp hmem with hmem | hmem
    · exact hclosed hmem
    · exact hjoined.between_not_mem (List.mem_singleton.mp hmem ▸ hjoined.right)
  · intro c hc hbeside
    rcases List.mem_append.mp hc with hc | hc
    · rcases h.passage c hc with hcroom | ⟨a, b, hab, ha, hb, rfl⟩
      · have := mem_rooms.mp hcroom
        have := hbeside.parity
        omega
      · rcases hab.eq_or_eq hjoined.right hbeside.symm with rfl | rfl
        · exact absurd ha hclosed
        · exact absurd hb hclosed
    · exact List.mem_singleton.mp hc

/-- **Entering a closed room.** -/
lemma enter (h : Sound width height s) (hpath : s.path = room :: path)
    (hjoined : Joined width height room next) (hclosed : next ∉ s.opened) :
    Sound width height ⟨next :: room :: path, s.opened ++ [between room next, next]⟩ := by
  obtain ⟨hnot, honly⟩ := h.between_leaf hjoined hclosed
  obtain ⟨hnot', honly'⟩ := h.next_leaf hjoined hclosed
  have hroom := h.path room (hpath ▸ List.mem_cons_self)
  have hopened : s.opened ++ [between room next, next] = (s.opened ++ [between room next]) ++ [next] := by
    rw [List.append_assoc]
    rfl
  have hmem : ∀ {c : Cell}, c ∈ s.opened → c ∈ s.opened ++ [between room next, next] :=
    List.mem_append_left _
  refine
    { nodup := ?_, isTree := ?_, passage := ?_, path := ?_, left := ?_, exists_room := ?_
      length_opened := ?_ }
  · rw [hopened]
    have hnodup := h.nodup.concat hnot
    rw [List.concat_eq_append] at hnodup
    have hnodup' := hnodup.concat hnot'
    rwa [List.concat_eq_append] at hnodup'
  · rw [hopened]
    refine (h.isTree.append hroom.2 hnot hjoined.beside.1 honly).append ?_ hnot' hjoined.beside.2 honly'
    exact List.mem_append_right _ (List.mem_singleton_self _)
  · intro c hc
    rcases List.mem_append.mp hc with hc | hc
    · rcases h.passage c hc with hcroom | ⟨a, b, hab, ha, hb, heq⟩
      · exact Or.inl hcroom
      · exact Or.inr ⟨a, b, hab, hmem ha, hmem hb, heq⟩
    · rcases List.mem_pair.mp hc with rfl | rfl
      · exact Or.inr ⟨room, next, hjoined, hmem hroom.2, by simp, rfl⟩
      · exact Or.inl hjoined.right
  · intro c hc
    rcases List.mem_cons.mp hc with rfl | hc
    · exact ⟨hjoined.right, by simp⟩
    · have := h.path c (hpath ▸ hc)
      exact ⟨this.1, hmem this.2⟩
  · intro a b hab ha hnotpath
    rcases List.mem_append.mp ha with ha | ha
    · refine hmem (h.left a b hab ha fun hpath' => hnotpath ?_)
      exact List.mem_cons_of_mem _ (hpath ▸ hpath')
    · rcases List.mem_pair.mp ha with rfl | rfl
      · exact absurd hab.left hjoined.between_not_mem
      · exact absurd List.mem_cons_self hnotpath
  · obtain ⟨c, hc, hcroom⟩ := h.exists_room
    exact ⟨c, hmem hc, hcroom⟩
  · have hno : isRoom width height (between room next) = false :=
      Bool.eq_false_iff.mpr fun hyes => hjoined.between_not_mem (isRoom_iff.mp hyes)
    have hlength := h.length_opened
    rw [roomsIn] at hlength ⊢
    rw [List.filter_append, List.filter_cons_of_neg (by simp [hno]),
      List.filter_cons_of_pos (isRoom_iff.mpr hjoined.right), List.filter_nil, List.length_append,
      List.length_append, List.length_singleton]
    simp only [List.length_cons, List.length_nil]
    omega

/-- **Leaving a room** when all rooms next to it are open. -/
lemma leave (h : Sound width height s) (hpath : s.path = room :: path)
    (hopen : ∀ next ∈ nextRooms width height room, next ∈ s.opened) :
    Sound width height ⟨path, s.opened⟩ := by
  refine { h with path := ?_, left := ?_ }
  · intro c hc
    exact h.path c (hpath ▸ List.mem_cons_of_mem _ hc)
  · intro a b hab ha hnot
    by_cases heq : a = room
    · exact hopen b (heq ▸ hab.next)
    · refine h.left a b hab ha ?_
      rw [hpath]
      exact List.not_mem_cons_of_ne_of_not_mem heq hnot

/-- **When the loop has ended, every room is open.** -/
lemma rooms_subset (h : Sound width height s) (hpath : s.path = []) {c : Cell}
    (hc : c ∈ rooms width height) : c ∈ s.opened := by
  have hclosed : ∀ a b, Joined width height a b → a ∈ s.opened → b ∈ s.opened := fun a b hab ha =>
    h.left a b hab ha (hpath ▸ List.not_mem_nil)
  obtain ⟨d, hd, hdroom⟩ := h.exists_room
  exact (mem_iff_corner hclosed hc).mpr ((mem_iff_corner hclosed hdroom).mp hd)

/-- There are no more open rooms than rooms, and when the loop has ended there are as many. -/
lemma length_roomsIn_le (h : Sound width height s) :
    (roomsIn width height s.opened).length ≤ (rooms width height).length := by
  refine ((h.nodup.filter _).subperm fun c hc => ?_).length_le
  exact isRoom_iff.mp (List.mem_filter.mp hc).2

lemma perm_rooms (h : Sound width height s) (hpath : s.path = []) :
    (roomsIn width height s.opened).Perm (rooms width height) := by
  refine (List.perm_ext_iff_of_nodup (h.nodup.filter _) nodup_rooms).mpr fun c => ?_
  rw [List.mem_filter, isRoom_iff]
  exact ⟨And.right, fun hc => ⟨h.rooms_subset hpath hc, hc⟩⟩

end Sound

/-- **No cell of the border is opened.** -/
lemma Sound.inner {s : Walk} (h : Sound width height s) {c : Cell} (hc : c ∈ s.opened) :
    0 < c.1 ∧ c.1 + 1 < width ∧ 0 < c.2 ∧ c.2 + 1 < height := by
  rcases h.passage c hc with hroom | ⟨a, b, hab, -, -, rfl⟩
  · rw [mem_rooms] at hroom
    omega
  · have ha := mem_rooms.mp hab.left
    have hb := mem_rooms.mp hab.right
    rcases hab.between_cases with ⟨heq, _, rfl⟩ | ⟨heq, rfl⟩ | ⟨heq, rfl⟩ | ⟨heq, _, rfl⟩ <;>
      rw [heq] <;> dsimp only at hb ⊢ <;> omega

/-! ## Turns -/

/-- **The turns, the length of the path and one make up twice the number of open rooms,** until the loop
has ended. -/
structure Walked (width height n : Nat) (s : Walk) : Prop where
  sound : Sound width height s
  turns : s.path ≠ [] → n + s.path.length + 1 = 2 * (roomsIn width height s.opened).length
  ended : s.path = [] → 2 * (roomsIn width height s.opened).length ≤ n + 1

lemma keeps_turn {n : Nat} {s : Walk} (h : Walked width height n s) :
    Keeps (fun _ => True) (turn width height s) (Walked width height (n + 1)) := by
  cases hpath : s.path with
  | nil =>
    have hstay : turn width height s = pure s := by rw [turn, hpath]
    rw [hstay]
    refine .pure ⟨h.sound, fun hne => absurd hpath hne, fun _ => ?_⟩
    have := h.ended hpath
    omega
  | cons room path =>
    have hturns := h.turns (by rw [hpath]; exact List.cons_ne_nil _ _)
    rw [hpath, List.length_cons] at hturns
    have hroom := (h.sound.path room (hpath ▸ List.mem_cons_self)).1
    rw [turn, hpath]
    dsimp only
    refine .bind (Draws.keeps_choose_cases _) fun found hfound => ?_
    rcases hfound with ⟨hnone, rfl⟩ | ⟨next, hnext, rfl⟩
    · refine .pure ⟨h.sound.leave hpath fun next hnext => ?_, fun _ => ?_, fun hnil => ?_⟩
      · have hopen := List.filter_eq_nil_iff.mp hnone next hnext
        simpa using hopen
      · dsimp only
        omega
      · dsimp only at hnil ⊢
        rw [hnil, List.length_nil] at hturns
        omega
    · obtain ⟨hnext, hclosed⟩ := List.mem_filter.mp hnext
      have hsound := h.sound.enter hpath (joined_of_next hroom hnext) (by simpa using hclosed)
      have hlength := hsound.length_opened
      have hlength' := h.sound.length_opened
      dsimp only at hlength
      rw [List.length_append] at hlength
      simp only [List.length_cons, List.length_nil] at hlength
      refine .pure ⟨hsound, fun _ => ?_, fun hnil => absurd hnil (List.cons_ne_nil _ _)⟩
      simp only [List.length_cons]
      omega

lemma keeps_after : ∀ (n : Nat) {m : Nat} {s : Walk}, Walked width height m s →
    Keeps (fun _ => True) (after width height n s) (Walked width height (m + n))
  | 0, _, _, h => .pure h
  | n + 1, m, s, h => by
    refine .bind (keeps_turn h) fun s' hs' => ?_
    have hrest := keeps_after n hs'
    rwa [Nat.add_right_comm, Nat.add_assoc] at hrest

/-- What happens after the end of the loop is nothing. -/
lemma after_add (m n : Nat) (s : Walk) : after width height (m + n) s = (do
    let s' ← after width height m s
    after width height n s') := by
  induction m generalizing s with
  | zero => rw [Nat.zero_add]; rfl
  | succ m ih =>
    rw [Nat.succ_add, after, after, bind_assoc]
    exact bind_congr fun s' => ih s'

/-! ## The carving of a maze -/

/-- The room in which carving starts. -/
def firstRoom (width height : Nat) : StateM Draws Cell := do
  let column ← Draws.below ((width - 1) / 2)
  let row ← Draws.below ((height - 1) / 2)
  pure (1 + 2 * column, 1 + 2 * row)

/-- **Carving, up to a number of turns.** -/
def carving (width height n : Nat) : StateM Draws Walk := do
  let first ← firstRoom width height
  after width height n ⟨[first], [first]⟩

/-- The number of turns that carving takes: every room but the first is entered, and every room is
left. -/
def turnCount (width height : Nat) : Nat := 2 * ((width - 1) / 2 * ((height - 1) / 2)) - 1

variable (hw : 3 ≤ width) (hh : 3 ≤ height)

include hw hh

lemma keeps_carving (n : Nat) :
    Keeps (fun _ => True) (carving width height n) (Walked width height n) := by
  refine .bind (R := (· ∈ rooms width height)) ?_ fun first hfirst => ?_
  · refine .bind (Draws.keeps_below (by omega)) fun column hcolumn => ?_
    refine .bind (Draws.keeps_below (by omega)) fun row hrow => .pure (mem_rooms.mpr ?_)
    dsimp only
    omega
  · have hsound := sound_first hfirst
    have hlength := hsound.length_opened
    dsimp only [List.length_singleton] at hlength
    have hwalked : Walked width height 0 ⟨[first], [first]⟩ :=
      ⟨hsound, fun _ => hlength ▸ rfl, fun hnil => absurd hnil (List.cons_ne_nil _ _)⟩
    have hafter := keeps_after n hwalked
    rwa [Nat.zero_add] at hafter

/-- **The loop ends after its number of turns and not before.** -/
theorem carving_ends (n : Nat) (draws : Draws) :
    (carving width height n draws).1.path = [] ↔ turnCount width height ≤ n := by
  obtain ⟨hwalked, -⟩ := keeps_carving hw hh n draws trivial
  generalize (carving width height n draws).1 = s at hwalked
  rw [turnCount, ← length_rooms]
  constructor
  · intro hpath
    have hended := hwalked.ended hpath
    rw [(hwalked.sound.perm_rooms hpath).length_eq] at hended
    omega
  · intro hn
    by_contra hpath
    have hturns := hwalked.turns hpath
    have hpos := List.length_pos_iff.mpr hpath
    have hle := hwalked.sound.length_roomsIn_le
    omega

/-- Further turns change nothing. -/
lemma carving_eq {n : Nat} (hn : turnCount width height ≤ n) (draws : Draws) :
    carving width height n draws = carving width height (turnCount width height) draws := by
  obtain ⟨k, rfl⟩ := Nat.exists_eq_add_of_le hn
  have hsplit : carving width height (turnCount width height + k) = (do
      let s ← carving width height (turnCount width height)
      after width height k s) := by
    rw [carving, carving, bind_assoc]
    exact bind_congr fun first => after_add _ _ _
  have hpath := (carving_ends hw hh _ draws).mpr (Nat.le_refl (turnCount width height))
  rw [hsplit]
  change after width height k (carving width height (turnCount width height) draws).1 _ = _
  rw [after_of_path_eq_nil hpath]
  rfl

end Carving

end PanelPuzzle
