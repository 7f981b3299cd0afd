import PanelPuzzle.Proofs.Maze.Bounds
import PanelPuzzle.Proofs.Maze.Ways
/-!
# The walls of a maze as runs

The closed cells of a row are read from right to left.  A closed cell begins a run, or is put before the run
that starts right after it.  So there is always an open cell between two runs, and no more than this has to be
known of them: a run with a gap on either side cannot be made longer, and two runs have no cell in common.

* `RunsOf` — runs with gaps between them, over the closed cells of a part of a row.
* `MazeLayout.ExactRuns` — runs that take the walls of a maze apart.
* `exactRuns_wallRuns` — **the runs of a maze do so,** and `exactRuns_iff` — no others do.
-/

namespace PanelPuzzle.MazeLayout

/-! ## Rows -/

/-- A run in a row, by its column and its length, spans a column. -/
def Spans (run : Nat × Nat) (x : Nat) : Prop := run.1 ≤ x ∧ x < run.1 + run.2

/-- **Runs over the closed ones of some cells of a row,** with gaps between them. -/
structure RunsOf (isOpen : Nat → Bool) (start count : Nat) (runs : List (Nat × Nat)) : Prop where
  spans : ∀ x, (∃ run ∈ runs, Spans run x) ↔ (start ≤ x ∧ x < start + count) ∧ isOpen x = false
  gaps : runs.Pairwise fun a b => a.1 + a.2 < b.1

namespace RunsOf

variable {isOpen : Nat → Bool} {start count length : Nat} {runs : List (Nat × Nat)} {run : Nat × Nat}

lemma nil : RunsOf isOpen start 0 [] where
  spans x := ⟨fun ⟨_, hrun, _⟩ => absurd hrun List.not_mem_nil, fun ⟨hx, _⟩ => by omega⟩
  gaps := .nil

/-- Another cell on the left is spanned if it is closed. -/
private lemma spans_succ (h : RunsOf isOpen (start + 1) count runs) (x : Nat) :
    (x = start ∧ isOpen start = false ∨ ∃ run ∈ runs, Spans run x) ↔
      (start ≤ x ∧ x < start + (count + 1)) ∧ isOpen x = false := by
  rw [h.spans]
  constructor
  · rintro (⟨rfl, hclosed⟩ | ⟨hx, hclosed⟩)
    · exact ⟨by omega, hclosed⟩
    · exact ⟨by omega, hclosed⟩
  · rintro ⟨hx, hclosed⟩
    rcases Nat.eq_or_lt_of_le hx.1 with rfl | hlt
    · exact .inl ⟨rfl, hclosed⟩
    · exact .inr ⟨by omega, hclosed⟩

/-- An open cell is left out. -/
lemma skip (h : RunsOf isOpen (start + 1) count runs) (hopen : isOpen start = true) :
    RunsOf isOpen start (count + 1) runs where
  spans x := by simp [← h.spans_succ x, hopen]
  gaps := h.gaps

/-- **A closed cell begins a run** if the next run starts later. -/
lemma begin (h : RunsOf isOpen (start + 1) count runs) (hclosed : isOpen start = false)
    (hlater : ∀ run ∈ runs, start + 1 < run.1) :
    RunsOf isOpen start (count + 1) ((start, 1) :: runs) where
  spans x := by
    rw [← h.spans_succ x, List.exists_mem_cons_iff]
    refine or_congr_left ?_
    rw [Spans, and_iff_left hclosed]
    dsimp only
    omega
  gaps := .cons hlater h.gaps

/-- **A closed cell is put before the run** that starts right after it. -/
lemma extend (h : RunsOf isOpen (start + 1) count ((start + 1, length) :: runs))
    (hclosed : isOpen start = false) :
    RunsOf isOpen start (count + 1) ((start, length + 1) :: runs) where
  spans x := by
    rw [← h.spans_succ x, List.exists_mem_cons_iff, List.exists_mem_cons_iff, ← or_assoc]
    refine or_congr_left ?_
    rw [Spans, Spans, and_iff_left hclosed]
    dsimp only
    omega
  gaps := by
    obtain ⟨hfirst, hgaps⟩ := List.pairwise_cons.mp h.gaps
    refine .cons (fun run hrun => ?_) hgaps
    have := hfirst run hrun
    dsimp only at this ⊢
    omega

end RunsOf

/-- **The runs of a row** span its closed cells. -/
lemma runsOf_closedRuns (isOpen : Nat → Bool) : ∀ count start,
    RunsOf isOpen start count (closedRuns start ((List.range' start count).map isOpen))
  | 0, _ => .nil
  | count + 1, start => by
    have hrest := runsOf_closedRuns isOpen count (start + 1)
    have hstarts : ∀ run ∈ closedRuns (start + 1) ((List.range' (start + 1) count).map isOpen),
        start + 1 ≤ run.1 := fun run hrun => (mem_closedRuns hrun).1
    rw [List.range'_succ, List.map_cons]
    cases hcell : isOpen start with
    | true => exact hrest.skip hcell
    | false =>
      rw [closedRuns]
      split
      · rename_i first length others heq
        rw [heq] at hrest hstarts
        obtain ⟨hfirst, -⟩ := List.forall_mem_cons.mp hstarts
        split
        · rename_i hnext
          exact (hnext ▸ hrest).extend hcell
        · rename_i hgap
          have hlt : start + 1 < first := Nat.lt_of_le_of_ne hfirst (Ne.symm hgap)
          refine hrest.begin hcell (List.forall_mem_cons.mpr ⟨hlt, fun run hrun => ?_⟩)
          have := (List.pairwise_cons.mp hrest.gaps).1 run hrun
          exact hlt.trans_le (Nat.le_of_add_right_le this.le)
      · rename_i heq
        rw [heq] at hrest
        exact hrest.begin hcell (List.forall_mem_nil _)

/-! ## Mazes -/

/-- A run covers the cells from its first one on. -/
def WallRun.Covers (run : WallRun) (c : Cell) : Prop :=
  c.2 = run.y ∧ run.x ≤ c.1 ∧ c.1 < run.x + run.length

/-- A run comes before another one, with a gap between them if they are in one row. -/
def WallRun.Precedes (a b : WallRun) : Prop := a.y < b.y ∨ a.y = b.y ∧ a.x + a.length < b.x

/-- **Runs that take the walls of a maze apart.** -/
structure ExactRuns (m : MazeLayout) (runs : List WallRun) : Prop where
  /-- A closed cell is in just one run. -/
  existsUnique_run : ∀ c, m.Inside c → m.isOpen c = false → ∃! run, run ∈ runs ∧ run.Covers c
  /-- What is in a run is a closed cell. -/
  closed : ∀ run ∈ runs, ∀ c, run.Covers c → m.Inside c ∧ m.isOpen c = false
  length_pos : ∀ run ∈ runs, 1 ≤ run.length
  /-- No run can be made longer to the left. -/
  before : ∀ run ∈ runs, 0 < run.x → m.isOpen (run.x - 1, run.y) = true
  /-- No run can be made longer to the right. -/
  after : ∀ run ∈ runs, run.x + run.length < m.width → m.isOpen (run.x + run.length, run.y) = true
  /-- The runs are listed row by row and from left to right. -/
  sorted : runs.Pairwise WallRun.Precedes

variable {m : MazeLayout} {runs runs' : List WallRun} {a b run : WallRun} {c c' : Cell}

instance : Std.Asymm WallRun.Precedes := ⟨fun a b h h' => by
  rw [WallRun.Precedes] at h h'
  omega⟩

/-- **Cells beside each other in one row are in one run.** -/
lemma eq_of_covers (hsorted : runs.Pairwise WallRun.Precedes) (ha : a ∈ runs) (hb : b ∈ runs)
    (hc : a.Covers c) (hc' : b.Covers c') (hrow : c.2 = c'.2) (hle : c.1 ≤ c'.1 + 1)
    (hle' : c'.1 ≤ c.1 + 1) : a = b := by
  by_contra hne
  have happart : runs.Pairwise fun a b => ¬ (a.Covers c ∧ b.Covers c' ∨ b.Covers c ∧ a.Covers c') :=
    hsorted.imp fun {a b} hprec hcovers => by
      simp only [WallRun.Covers, WallRun.Precedes] at hcovers hprec
      omega
  have : Std.Symm fun a b : WallRun => ¬ (a.Covers c ∧ b.Covers c' ∨ b.Covers c ∧ a.Covers c') :=
    ⟨fun a b h h' => h h'.symm⟩
  exact happart.forall ha hb hne (.inl ⟨hc, hc'⟩)

/-- **Runs with gaps between them** that cover just the closed cells take the walls apart. -/
lemma ExactRuns.of_sorted (hsorted : runs.Pairwise WallRun.Precedes)
    (hpos : ∀ run ∈ runs, 1 ≤ run.length)
    (hcovers : ∀ c, (∃ run ∈ runs, run.Covers c) ↔ m.Inside c ∧ m.isOpen c = false) :
    m.ExactRuns runs where
  existsUnique_run c hinside hclosed := by
    obtain ⟨run, hrun, hc⟩ := (hcovers c).mpr ⟨hinside, hclosed⟩
    refine ⟨run, ⟨hrun, hc⟩, fun other ⟨hother, hc'⟩ => ?_⟩
    exact eq_of_covers hsorted hother hrun hc' hc rfl (Nat.le_succ _) (Nat.le_succ _)
  closed run hrun c hc := (hcovers c).mp ⟨run, hrun, hc⟩
  length_pos := hpos
  before run hrun hlt := by
    have hfirst : run.Covers (run.x, run.y) := ⟨rfl, le_rfl, Nat.lt_add_of_pos_right (hpos run hrun)⟩
    have hinside := ((hcovers _).mp ⟨run, hrun, hfirst⟩).1
    by_contra hclosed
    -- the run of the cell before would be this one, which does not cover it
    obtain ⟨other, hother, hc⟩ := (hcovers (run.x - 1, run.y)).mpr
      ⟨⟨Nat.lt_of_le_of_lt (Nat.sub_le _ _) hinside.1, hinside.2⟩, Bool.eq_false_iff.mpr hclosed⟩
    obtain rfl := eq_of_covers hsorted hother hrun hc hfirst rfl (by dsimp only; omega)
      (by dsimp only; omega)
    have := hc.2.1
    dsimp only at this
    omega
  after run hrun hlt := by
    have hrunpos := hpos run hrun
    have hlast : run.Covers (run.x + run.length - 1, run.y) := ⟨rfl, by dsimp only; omega⟩
    have hinside := ((hcovers _).mp ⟨run, hrun, hlast⟩).1
    by_contra hclosed
    obtain ⟨other, hother, hc⟩ := (hcovers (run.x + run.length, run.y)).mpr
      ⟨⟨hlt, hinside.2⟩, Bool.eq_false_iff.mpr hclosed⟩
    obtain rfl := eq_of_covers hsorted hother hrun hc hlast rfl (by dsimp only; omega)
      (by dsimp only; omega)
    exact absurd hc.2.2 (lt_irrefl _)
  sorted := hsorted

lemma mem_wallRuns_iff : run ∈ m.wallRuns ↔
    run.y < m.height ∧ (run.x, run.length) ∈ closedRuns 0 (m.row run.y) := by
  simp only [wallRuns, List.mem_flatMap, List.mem_range, List.mem_map, Prod.exists]
  constructor
  · rintro ⟨y, hy, x, length, hmem, rfl⟩
    exact ⟨hy, hmem⟩
  · rintro ⟨hy, hmem⟩
    exact ⟨run.y, hy, run.x, run.length, hmem, rfl⟩

/-- The runs of a row of a maze. -/
lemma runsOf_row (m : MazeLayout) (y : Nat) :
    RunsOf (fun x => m.isOpen (x, y)) 0 m.width (closedRuns 0 (m.row y)) := by
  rw [row, List.range_eq_range']
  exact runsOf_closedRuns _ m.width 0

/-- **The runs of a maze take its walls apart.** -/
lemma exactRuns_wallRuns (m : MazeLayout) : m.ExactRuns m.wallRuns := by
  refine .of_sorted ?_ (fun run hrun => (mem_wallRuns hrun).1) fun c => ?_
  · refine List.pairwise_flatMap.mpr ⟨fun y _ => ?_, ?_⟩
    · rw [List.pairwise_map]
      exact (m.runsOf_row y).gaps.imp fun hgap => .inr ⟨rfl, hgap⟩
    · refine List.pairwise_lt_range.imp fun {y y'} hlt a ha b hb => .inl ?_
      obtain ⟨_, -, rfl⟩ := List.mem_map.mp ha
      obtain ⟨_, -, rfl⟩ := List.mem_map.mp hb
      exact hlt
  · have hrow := (m.runsOf_row c.2).spans c.1
    constructor
    · rintro ⟨⟨x, y, length⟩, hrun, rfl : c.2 = y, hx⟩
      obtain ⟨hy, hmem⟩ := mem_wallRuns_iff.mp hrun
      obtain ⟨hspan, hclosed⟩ := hrow.mp ⟨(x, length), hmem, hx⟩
      exact ⟨⟨by omega, hy⟩, hclosed⟩
    · rintro ⟨⟨hx, hy⟩, hclosed⟩
      obtain ⟨⟨x, length⟩, hmem, hspan⟩ := hrow.mpr ⟨⟨Nat.zero_le _, by omega⟩, hclosed⟩
      exact ⟨⟨x, c.2, length⟩, mem_wallRuns_iff.mpr ⟨hy, hmem⟩, rfl, hspan⟩

/-! ## There is no other way -/

/-- A run that covers the first cell of another one starts there too. -/
private lemma ExactRuns.le_x (h : m.ExactRuns runs) (h' : m.ExactRuns runs') (ha : a ∈ runs)
    (hb : b ∈ runs') (hc : b.Covers (a.x, a.y)) : a.x ≤ b.x := by
  by_contra hlt
  have hbefore := h.before a ha (by omega)
  have hc' : b.Covers (a.x - 1, a.y) := ⟨hc.1, by
    have := hc.2
    dsimp only at this ⊢
    omega⟩
  exact Bool.false_ne_true ((h'.closed b hb _ hc').2.symm.trans hbefore)

/-- Of two runs that start together none is longer. -/
private lemma ExactRuns.length_le (h : m.ExactRuns runs) (h' : m.ExactRuns runs') (ha : a ∈ runs)
    (hb : b ∈ runs') (hx : a.x = b.x) (hy : a.y = b.y) : b.length ≤ a.length := by
  by_contra hlt
  have hc : b.Covers (a.x + a.length, a.y) := ⟨hy, by dsimp only; omega⟩
  obtain ⟨hinside, hclosed⟩ := h'.closed b hb _ hc
  exact Bool.false_ne_true (hclosed.symm.trans (h.after a ha hinside.1))

/-- Two ways to take the walls apart have the same runs. -/
private lemma ExactRuns.subset (h : m.ExactRuns runs) (h' : m.ExactRuns runs') : runs ⊆ runs' := by
  intro a ha
  have hpos := h.length_pos a ha
  have hfirst : a.Covers (a.x, a.y) := ⟨rfl, le_rfl, Nat.lt_add_of_pos_right hpos⟩
  obtain ⟨hinside, hclosed⟩ := h.closed a ha _ hfirst
  obtain ⟨b, ⟨hb, hc⟩, -⟩ := h'.existsUnique_run _ hinside hclosed
  have hx : a.x = b.x := Nat.le_antisymm (h.le_x h' ha hb hc) hc.2.1
  have hlength := Nat.le_antisymm (h'.length_le h hb ha hx.symm hc.1.symm) (h.length_le h' ha hb hx hc.1)
  obtain ⟨x, y, length⟩ := a
  obtain ⟨x', y', length'⟩ := b
  obtain rfl : x = x' := hx
  obtain rfl : y = y' := hc.1
  obtain rfl : length = length' := hlength
  exact hb

/-- **There is just one way to take the walls of a maze apart.** -/
theorem exactRuns_iff (m : MazeLayout) (runs : List WallRun) : m.ExactRuns runs ↔ runs = m.wallRuns := by
  refine ⟨fun h => ?_, fun h => h ▸ m.exactRuns_wallRuns⟩
  have h' := m.exactRuns_wallRuns
  have hperm : runs.Perm m.wallRuns := (List.perm_ext_iff_of_nodup h.sorted.nodup h'.sorted.nodup).mpr
    fun run => ⟨fun hrun => h.subset h' hrun, fun hrun => h'.subset h hrun⟩
  exact hperm.eq_of_pairwise (fun a b _ _ hab hba => absurd hba (asymm hab)) h.sorted h'.sorted

end PanelPuzzle.MazeLayout
