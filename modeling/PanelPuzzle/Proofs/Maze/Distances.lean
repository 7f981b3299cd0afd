import PanelPuzzle.Proofs.Maze.Ways
/-!
# Distances in a maze

Distances are found in rounds, and a round is what a queue does while the cells of one distance leave it.
`MazeLayout.Search` is such a search with a queue, one turn for each cell that leaves it; a cell gets its
distance as it enters.

**The queue.**  `Search.Sound` says what every turn keeps: no cell enters the queue twice, and after some
turns as many cells have left it, in the order in which they entered.  So there are no more turns than cells.

**The rounds.**  `Search.Level` says what every round keeps: all cells up to a distance are known with their
distances, and those at that distance wait.  A cell that is marked as it enters loses no shorter way, because
whatever could lead to it on a shorter way has left the queue by then.

* `search_eq_reachable` — the search with a queue ends with what the search in rounds has found.
* `distances_exact` — **the entry of a cell is the number of steps of a shortest way.**
-/

namespace PanelPuzzle.MazeLayout

variable {m : MazeLayout} {start c : Cell} {n : Nat}

/-! ## A search with a queue -/

/-- A search in the course of its turns. -/
structure Search where
  /-- The cells that wait, the first one first. -/
  queue : List Cell
  /-- The cells that have entered the queue so far, in that order, with their distances. -/
  found : List (Cell × Nat)

namespace Search

/-- The cells that have entered the queue. -/
def entered (s : Search) : List Cell := s.found.map Prod.fst

/-- A cell enters the queue if it is open and has no distance yet. -/
def meet (m : MazeLayout) (distance : Nat) (s : Search) (c : Cell) : Search :=
  if m.isOpen c && (s.found.lookup c).isNone then ⟨s.queue ++ [c], s.found ++ [(c, distance)]⟩ else s

/-- **One turn:** a cell leaves the queue, and the cells beside it are one step farther. -/
def turn (m : MazeLayout) (s : Search) : Search :=
  match s.queue with
  | [] => s
  | c :: queue => (m.neighbours c).foldl (meet m ((s.found.lookup c).getD 0 + 1)) { s with queue }

/-- The distances that are known, row by row. -/
def table (m : MazeLayout) (s : Search) : List (List (Option Nat)) :=
  (List.range m.height).map fun y => (List.range m.width).map fun x => s.found.lookup (x, y)

end Search

/-- A search from a cell after some turns. -/
def search (m : MazeLayout) (start : Cell) (n : Nat) : Search :=
  (Search.turn m)^[n] ⟨[start], [(start, 0)]⟩

lemma search_add (m : MazeLayout) (start : Cell) (n k : Nat) :
    search m start (n + k) = (Search.turn m)^[k] (search m start n) := by
  rw [search, Nat.add_comm, Function.iterate_add_apply]
  rfl

lemma search_succ (m : MazeLayout) (start : Cell) (n : Nat) :
    search m start (n + 1) = (search m start n).turn m := search_add m start n 1

/-- A search that has ended stays as it is. -/
lemma search_of_queue_eq_nil (h : (search m start n).queue = []) {k : Nat} (hk : n ≤ k) :
    search m start k = search m start n := by
  induction k, hk using Nat.le_induction with
  | base => rfl
  | succ k _ ih => rw [search_succ, ih, Search.turn, h]

/-! ## Every cell enters once -/

namespace Search

variable {s : Search}

/-- **What every turn keeps.** -/
structure Sound (m : MazeLayout) (n : Nat) (s : Search) : Prop where
  /-- As many cells as there were turns have left the queue. -/
  queue_eq : s.queue = s.entered.drop n
  nodup : s.entered.Nodup
  inside : ∀ c ∈ s.entered, m.Inside c

lemma not_mem_entered (h : s.found.lookup c = none) : c ∉ s.entered := by
  intro hmem
  obtain ⟨p, hp, rfl⟩ := List.mem_map.mp hmem
  exact absurd (List.lookup_eq_none_iff.mp h p hp) (by simp)

lemma entered_meet (m : MazeLayout) (distance : Nat) (s : Search) (c : Cell) :
    (s.meet m distance c = s) ∨ (c ∉ s.entered ∧ (s.meet m distance c).queue = s.queue ++ [c] ∧
      (s.meet m distance c).found = s.found ++ [(c, distance)]) := by
  unfold meet
  split
  · rename_i hnew
    simp only [Bool.and_eq_true, Option.isNone_iff_eq_none] at hnew
    exact .inr ⟨not_mem_entered hnew.2, rfl, rfl⟩
  · exact .inl rfl

/-- A cell that is met enters the queue behind the others. -/
lemma Sound.met (h : s.Sound m n) (hn : n ≤ s.entered.length) (hc : m.Inside c) (distance : Nat) :
    (s.meet m distance c).Sound m n ∧ n ≤ (s.meet m distance c).entered.length := by
  rcases entered_meet m distance s c with hsame | ⟨hnew, hqueue, hfound⟩
  · rw [hsame]
    exact ⟨h, hn⟩
  have hentered : (s.meet m distance c).entered = s.entered ++ [c] := by
    rw [entered, hfound, List.map_append]
    rfl
  refine ⟨⟨?_, ?_, ?_⟩, ?_⟩
  · rw [hqueue, hentered, List.drop_append_of_le_length hn, h.queue_eq]
  · rw [hentered, ← List.concat_eq_append]
    exact h.nodup.concat hnew
  · rw [hentered]
    exact List.forall_mem_append.mpr ⟨h.inside, List.forall_mem_singleton.mpr hc⟩
  · rw [hentered, List.length_append]
    exact Nat.le_add_right_of_le hn

lemma Sound.allMet (distance : Nat) : ∀ {cells : List Cell} {s : Search}, s.Sound m n →
    n ≤ s.entered.length → (∀ c ∈ cells, m.Inside c) → (cells.foldl (meet m distance) s).Sound m n
  | [], _, h, _, _ => h
  | c :: cells, s, h, hn, hcells => by
    obtain ⟨hc, hothers⟩ := List.forall_mem_cons.mp hcells
    obtain ⟨hmet, hle⟩ := h.met hn hc distance
    rw [List.foldl_cons]
    exact Sound.allMet distance hmet hle hothers

/-- **Every turn takes one cell from the queue,** and only new cells enter it. -/
lemma Sound.turned (h : s.Sound m n) : (s.turn m).Sound m (n + 1) := by
  unfold Search.turn
  split
  · rename_i hnil
    refine ⟨?_, h.nodup, h.inside⟩
    have hlength := List.drop_eq_nil_iff.mp (h.queue_eq.symm.trans hnil)
    rw [hnil, List.drop_eq_nil_of_le (Nat.le_succ_of_le hlength)]
  · rename_i c queue hcons
    have hdrop : s.entered.drop n = c :: queue := h.queue_eq.symm.trans hcons
    have hlt : n < s.entered.length := by
      by_contra hle
      rw [List.drop_eq_nil_of_le (Nat.le_of_not_lt hle)] at hdrop
      cases hdrop
    refine Sound.allMet _ ⟨?_, h.nodup, h.inside⟩ hlt fun b hb => (mem_neighbours.mp hb).2
    change queue = s.entered.drop (n + 1)
    rw [← List.drop_drop, hdrop]
    rfl

/-- There are not more cells than the maze has. -/
lemma Sound.length_le (h : s.Sound m n) : s.found.length ≤ m.width * m.height := by
  have hcells : m.cells.length = m.width * m.height := by
    simp [cells, Nat.mul_comm]
  have hmem : s.entered ⊆ m.cells := fun c hc => mem_cells_iff.mpr (h.inside c hc)
  have hle := h.nodup.length_le_of_subset hmem
  rwa [hcells, entered, List.length_map] at hle

end Search

lemma sound_search (hstart : m.Inside start) : ∀ n, (search m start n).Sound m n
  | 0 => ⟨rfl, List.nodup_singleton start, List.forall_mem_singleton.mpr hstart⟩
  | n + 1 => by
    rw [search_succ]
    exact (sound_search hstart n).turned

/-! ## A round -/

namespace Search

/-- The cells among some that are open and have no distance, each once. -/
def fresh (m : MazeLayout) (found : List (Cell × Nat)) (cells : List Cell) : List Cell :=
  (cells.filter fun c => m.isOpen c && (found.lookup c).isNone).eraseDups

variable {found : List (Cell × Nat)} {cells : List Cell}

lemma mem_fresh : c ∈ fresh m found cells ↔
    c ∈ cells ∧ m.isOpen c = true ∧ found.lookup c = none := by
  simp only [fresh, List.mem_eraseDups, List.mem_filter, Bool.and_eq_true, Option.isNone_iff_eq_none]

/-- A cell that was met is no longer new. -/
lemma fresh_cons (distance : Nat) (hopen : m.isOpen c = true) (hnew : found.lookup c = none) :
    fresh m found (c :: cells) = c :: fresh m (found ++ [(c, distance)]) cells := by
  rw [fresh, List.filter_cons_of_pos (by simp [hopen, hnew]), List.eraseDups_cons, List.filter_filter,
    fresh]
  congr 2
  refine List.filter_congr fun b _ => ?_
  rw [List.lookup_append]
  by_cases hb : b = c
  · subst hb
    simp [hnew]
  · have hlookup : [(c, distance)].lookup b = none := by
      rw [List.lookup_eq_none_iff]
      simpa using hb
    simp [hlookup, hb]

/-- **Some cells are met one after the other:** those that are new enter the queue. -/
lemma foldl_meet (distance : Nat) : ∀ (cells queue : List Cell) (found : List (Cell × Nat)),
    cells.foldl (meet m distance) ⟨queue, found⟩ = ⟨queue ++ fresh m found cells,
      found ++ (fresh m found cells).map fun c => (c, distance)⟩
  | [], queue, found => by simp [fresh]
  | c :: cells, queue, found => by
    rw [List.foldl_cons, meet]
    split
    · rename_i hnew
      simp only [Bool.and_eq_true, Option.isNone_iff_eq_none] at hnew
      rw [foldl_meet, fresh_cons distance hnew.1 hnew.2]
      simp
    · rename_i hold
      have hsame : fresh m found (c :: cells) = fresh m found cells :=
        congrArg List.eraseDups (List.filter_cons_of_neg hold)
      rw [foldl_meet, hsame]

/-- **The turns of a round:** all cells of one distance leave the queue, and those behind them stay in
front of the new ones. -/
lemma iterate_turn {distance : Nat} : ∀ (frontier queue : List Cell) (found : List (Cell × Nat)),
    (∀ c ∈ frontier, found.lookup c = some distance) →
      (turn m)^[frontier.length] ⟨frontier ++ queue, found⟩ =
        (frontier.flatMap m.neighbours).foldl (meet m (distance + 1)) ⟨queue, found⟩
  | [], _, _, _ => rfl
  | c :: frontier, queue, found, hfrontier => by
    obtain ⟨hc, hothers⟩ := List.forall_mem_cons.mp hfrontier
    have hturn : turn m ⟨c :: frontier ++ queue, found⟩
        = (m.neighbours c).foldl (meet m (distance + 1)) ⟨frontier ++ queue, found⟩ := by
      simp only [turn, List.cons_append, hc, Option.getD_some]
    have hmet := foldl_meet (m := m) (distance + 1) (m.neighbours c)
    rw [List.length_cons, Function.iterate_succ_apply, hturn, List.flatMap_cons, List.foldl_append,
      hmet, hmet, List.append_assoc]
    refine iterate_turn frontier _ _ fun b hb => ?_
    rw [List.lookup_append, hothers b hb, Option.some_or]

/-- **A round.** -/
lemma iterate_turn_queue {distance : Nat} {s : Search}
    (h : ∀ c ∈ s.queue, s.found.lookup c = some distance) :
    (turn m)^[s.queue.length] s = ⟨fresh m s.found (s.queue.flatMap m.neighbours),
      s.found ++ (fresh m s.found (s.queue.flatMap m.neighbours)).map fun c => (c, distance + 1)⟩ := by
  have hround := iterate_turn (m := m) s.queue [] s.found h
  rw [List.append_nil, foldl_meet, List.nil_append] at hround
  exact hround

lemma lookup_map_pair (distance : Nat) : ∀ {cells : List Cell},
    (cells.map fun c => (c, distance)).lookup c = if c ∈ cells then some distance else none
  | [] => rfl
  | b :: cells => by
    rw [List.map_cons, List.lookup_cons, lookup_map_pair distance]
    by_cases hb : c = b
    · simp [hb]
    · rw [beq_false_of_ne hb]
      simp [hb]

/-- **What every round keeps:** all cells up to a distance are known, and those at this distance wait. -/
structure Level (m : MazeLayout) (start : Cell) (distance : Nat) (s : Search) : Prop where
  lookup_iff : ∀ c d, s.found.lookup c = some d ↔ d ≤ distance ∧ m.Shortest start d c
  mem_queue_iff : ∀ c, c ∈ s.queue ↔ m.Shortest start distance c

namespace Level

variable {distance : Nat} {s : Search}

lemma lookup_of_mem (h : s.Level m start distance) (hc : c ∈ s.queue) :
    s.found.lookup c = some distance :=
  (h.lookup_iff c distance).mpr ⟨le_rfl, (h.mem_queue_iff c).mp hc⟩

/-- **What is new is one step farther.** -/
lemma mem_fresh_iff (h : s.Level m start distance) :
    c ∈ fresh m s.found (s.queue.flatMap m.neighbours) ↔ m.Shortest start (distance + 1) c := by
  have hnone : s.found.lookup c = none ↔ ∀ d ≤ distance, ¬ m.Shortest start d c := by
    rw [Option.eq_none_iff_forall_ne_some]
    exact forall_congr' fun d => by rw [ne_eq, h.lookup_iff c d, not_and]
  rw [mem_fresh, shortest_succ_iff, hnone, List.mem_flatMap]
  constructor
  · rintro ⟨⟨b, hb, hneighbour⟩, hopen, hnot⟩
    obtain ⟨hbeside, hinside⟩ := mem_neighbours.mp hneighbour
    exact ⟨⟨b, (h.mem_queue_iff b).mp hb, hbeside, hinside, hopen⟩, hnot⟩
  · rintro ⟨⟨b, hb, hstep⟩, hnot⟩
    exact ⟨⟨b, (h.mem_queue_iff b).mpr hb, mem_neighbours.mpr ⟨hstep.beside, hstep.inside⟩⟩,
      hstep.isOpen, hnot⟩

/-- **A round leads to the next distance.** -/
lemma next (h : s.Level m start distance) :
    ((turn m)^[s.queue.length] s).Level m start (distance + 1) := by
  rw [iterate_turn_queue fun c hc => h.lookup_of_mem hc]
  refine ⟨fun c d => ?_, fun c => h.mem_fresh_iff⟩
  simp only [List.lookup_append, lookup_map_pair, Option.or_eq_some_iff, h.lookup_iff,
    Option.ite_none_right_eq_some, Option.some.injEq, h.mem_fresh_iff]
  constructor
  · rintro (⟨hd, hshort⟩ | ⟨-, hshort, rfl⟩)
    · exact ⟨Nat.le_succ_of_le hd, hshort⟩
    · exact ⟨le_rfl, hshort⟩
  · rintro ⟨hd, hshort⟩
    rcases Nat.lt_or_eq_of_le hd with hlt | rfl
    · exact .inl ⟨Nat.le_of_lt_succ hlt, hshort⟩
    · refine .inr ⟨?_, hshort, rfl⟩
      rw [Option.eq_none_iff_forall_ne_some]
      intro d hlookup
      obtain ⟨hle, hshort'⟩ := (h.lookup_iff c d).mp hlookup
      exact absurd (hshort.unique hshort') (Nat.ne_of_gt (Nat.lt_succ_of_le hle))

/-- **When nothing is new all distances are known.** -/
lemma lookup_iff_of_fresh (h : s.Level m start distance)
    (hnil : fresh m s.found (s.queue.flatMap m.neighbours) = []) (c : Cell) (d : Nat) :
    s.found.lookup c = some d ↔ m.Shortest start d c := by
  rw [h.lookup_iff, and_iff_right_iff_imp]
  intro hshort
  by_contra hlt
  obtain ⟨b, hb⟩ := hshort.exists_of_le (Nat.lt_of_not_le hlt)
  exact absurd (hnil ▸ h.mem_fresh_iff.mpr hb) List.not_mem_nil

end Level

end Search

/-! ## The whole search -/

lemma level_search_zero (m : MazeLayout) (start : Cell) : (search m start 0).Level m start 0 := by
  refine ⟨fun c d => ?_, fun c => ?_⟩
  · change ([start].map fun c => (c, 0)).lookup c = some d ↔ _
    rw [Search.lookup_map_pair, Option.ite_none_right_eq_some, List.mem_singleton, Nat.le_zero,
      Option.some.injEq]
    constructor
    · rintro ⟨hc, rfl⟩
      exact ⟨rfl, shortest_zero_iff.mpr hc⟩
    · rintro ⟨rfl, hshort⟩
      exact ⟨shortest_zero_iff.mp hshort, rfl⟩
  · change c ∈ [start] ↔ _
    rw [List.mem_singleton, shortest_zero_iff]

/-- **The rounds are those of the queue,** and there are enough of them: with every round but the last a
cell enters, and it does not enter twice. -/
lemma exists_search_eq_spread (hstart : m.Inside start) : ∀ (rounds : Nat) {distance n : Nat},
    (search m start n).Level m start distance →
    m.width * m.height < rounds + (search m start n).found.length → ∃ last,
      search m start last
        = ⟨[], m.spread rounds distance (search m start n).queue (search m start n).found⟩ ∧
      ∀ c d, (search m start last).found.lookup c = some d ↔ m.Shortest start d c
  | 0, _, n, _, hlt => by
    rw [Nat.zero_add] at hlt
    exact absurd (sound_search hstart n).length_le (Nat.not_le.mpr hlt)
  | rounds + 1, distance, n, hlevel, hlt => by
    have hround := Search.iterate_turn_queue (m := m) fun c hc => hlevel.lookup_of_mem hc
    rw [← search_add] at hround
    have hnext := hlevel.next
    rw [← search_add] at hnext
    unfold spread
    extract_lets reached fresh
    change search m start _ = ⟨fresh, _ ++ fresh.map _⟩ at hround
    split
    · rename_i hnil
      rw [hnil, List.map_nil, List.append_nil] at hround
      refine ⟨_, hround, fun c d => ?_⟩
      rw [hround]
      exact hlevel.lookup_iff_of_fresh hnil c d
    · rename_i hne
      obtain ⟨last, hlast, hexact⟩ := exists_search_eq_spread hstart rounds hnext (by
        have hpos := List.length_pos_iff.mpr hne
        rw [hround, List.length_append, List.length_map]
        omega)
      rw [hround] at hlast
      exact ⟨last, hlast, hexact⟩

/-- **The search with a queue ends** with what the search in rounds has found, and all distances are
known then. -/
lemma search_eq_reachable (hstart : m.Inside start) : ∃ last,
    search m start last = ⟨[], m.reachable start⟩ ∧
      ∀ c d, (m.reachable start).lookup c = some d ↔ m.Shortest start d c := by
  obtain ⟨last, hlast, hexact⟩ := exists_search_eq_spread hstart (m.width * m.height)
    (level_search_zero m start) (Nat.lt_succ_self _)
  refine ⟨last, hlast, ?_⟩
  rw [hlast] at hexact
  exact hexact

/-- What is found stays found. -/
lemma found_prefix_of_le {k : Nat} (h : n ≤ k) :
    (search m start n).found <+: (search m start k).found := by
  induction k, h using Nat.le_induction with
  | base => exact List.prefix_refl _
  | succ k _ ih =>
    refine ih.trans ?_
    rw [search_succ, Search.turn]
    split
    · exact List.prefix_refl _
    · rw [Search.foldl_meet]
      exact List.prefix_append _ _

/-- **There is one turn for each cell that is found.** -/
lemma queue_search_eq_nil_iff (hstart : m.Inside start) (n : Nat) :
    ((search m start n).queue = [] ↔ (m.reachable start).length ≤ n) ∧
      ((search m start n).queue = [] → (search m start n).found = m.reachable start) := by
  obtain ⟨last, hlast, -⟩ := search_eq_reachable hstart
  have hended : (search m start last).queue = [] := by rw [hlast]
  have hfound : (search m start n).queue = [] → (search m start n).found = m.reachable start := by
    intro hnil
    rcases Nat.le_total n last with hle | hle
    · rw [← search_of_queue_eq_nil hnil hle, hlast]
    · rw [search_of_queue_eq_nil hended hle, hlast]
  have hqueue := (sound_search hstart n).queue_eq
  refine ⟨⟨fun hnil => ?_, fun hle => ?_⟩, hfound⟩
  · rw [hnil] at hqueue
    have hlength := List.drop_eq_nil_iff.mp hqueue.symm
    rwa [Search.entered, List.length_map, hfound hnil] at hlength
  · have hprefix : (search m start n).found.length ≤ (m.reachable start).length := by
      rcases Nat.le_total n last with hbefore | hafter
      · have hgrown : (search m start n).found <+: (search m start last).found :=
          found_prefix_of_le hbefore
        rw [hlast] at hgrown
        exact hgrown.length_le
      · rw [search_of_queue_eq_nil hended hafter, hlast]
    rw [hqueue, List.drop_eq_nil_iff, Search.entered, List.length_map]
    exact hprefix.trans hle

/-! ## The table -/

/-- The entry of a cell in a table of rows. -/
def entryAt? (table : List (List (Option Nat))) (c : Cell) : Option (Option Nat) :=
  table[c.2]?.bind (·[c.1]?)

lemma entryAt?_distances (hc : m.Inside c) :
    entryAt? (m.distances start) c = some ((m.reachable start).lookup c) := by
  obtain ⟨hx, hy⟩ := hc
  simp [entryAt?, distances, List.getElem?_range hx, List.getElem?_range hy]

/-- **The distances are exact.**  A search with a queue, in which no cell enters twice, ends after one turn
for each cell that it finds, and the table holds what it has found.  The entry of a cell is the number of
steps of a shortest way, and a cell without a way has none. -/
theorem distances_exact (m : MazeLayout) {start : Cell} (hstart : m.Inside start) :
    (∀ n, (search m start n).entered.Nodup ∧
      (search m start n).queue = (search m start n).entered.drop n ∧
      ((search m start n).queue = [] ↔ (m.reachable start).length ≤ n) ∧
      ((search m start n).queue = [] → (search m start n).table m = m.distances start)) ∧
    (m.reachable start).length ≤ m.width * m.height ∧
    (m.distances start).length = m.height ∧ (∀ row ∈ m.distances start, row.length = m.width) ∧
    ∀ c, m.Inside c → ∃ entry, entryAt? (m.distances start) c = some entry ∧
      (∀ d, entry = some d ↔ m.Shortest start d c) ∧ (entry = none ↔ ∀ n, ¬ m.Way start n c) := by
  obtain ⟨last, hlast, hexact⟩ := search_eq_reachable hstart
  have hlength := (sound_search hstart last).length_le
  rw [hlast] at hlength
  refine ⟨fun n => ?_, hlength, ?_, fun row hrow => ?_, fun c hc => ?_⟩
  · have hsound := sound_search hstart n
    obtain ⟨hends, hfound⟩ := queue_search_eq_nil_iff hstart n
    refine ⟨hsound.nodup, hsound.queue_eq, hends, fun hnil => ?_⟩
    rw [Search.table, hfound hnil]
    rfl
  · simp [distances]
  · obtain ⟨y, -, rfl⟩ := List.mem_map.mp hrow
    simp
  · refine ⟨_, entryAt?_distances hc, hexact c, ?_⟩
    rw [Option.eq_none_iff_forall_ne_some]
    constructor
    · intro hnone n hway
      obtain ⟨d, -, hshort⟩ := hway.exists_shortest
      exact hnone d ((hexact c d).mpr hshort)
    · intro hno d hd
      exact hno d ((hexact c d).mp hd).way

/-- A bent corridor, searched from a wall; one cell is cut off. -/
theorem distances_exact_bent :
    let m : MazeLayout := ⟨3, 3, [(1, 0), (2, 0), (2, 1), (0, 2)], (1, 0), (2, 1)⟩
    m.Inside (0, 0) ∧ m.isOpen (0, 0) = false ∧
      m.distances (0, 0) = [[some 0, some 1, some 2], [none, none, some 3], [none, none, none]] ∧
      m.Shortest (0, 0) 3 (2, 1) ∧ ∀ n, ¬ m.Way (0, 0) n (0, 2) := by
  intro m
  have hstart : m.Inside (0, 0) := by decide
  obtain ⟨-, -, -, -, hentries⟩ := distances_exact m hstart
  have htable : m.distances (0, 0)
      = [[some 0, some 1, some 2], [none, none, some 3], [none, none, none]] := by decide +kernel
  refine ⟨hstart, by decide, htable, ?_, ?_⟩
  · obtain ⟨entry, hentry, hsome, -⟩ := hentries (2, 1) (by decide)
    rw [htable] at hentry
    exact (hsome 3).mp (Option.some.inj hentry).symm
  · obtain ⟨entry, hentry, -, hnone⟩ := hentries (0, 2) (by decide)
    rw [htable] at hentry
    exact hnone.mp (Option.some.inj hentry).symm

end PanelPuzzle.MazeLayout
