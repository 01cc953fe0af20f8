import ChipEight.Session
import Mathlib.Algebra.BigOperators.Group.List.Basic
import Mathlib.Algebra.Ring.Int.Defs

/-!
# What a progress bar is told

A bar (`scan_with_progress`) is opened by the first iteration of a run, moves on by a whole step at
every multiple of its rate, and is told what is missing by the last iteration, which also closes it.
Nobody counts along: that the parts add up is a matter of the rate, which is clamped, and of a
division that rounds down.

* `Progress.Bar.snd_scan_append` — the events of a run are those of its iterations in order.
* `Progress.Bar.snd_scan_iterations` — the events up to an iteration, all of them at once.
* `Progress.scanWithBar` — a run with a bar, of no more iterations than can be counted.
* `Progress.moves` — how far the bar moves on, with its sum `Progress.sum_moves`.
* `Progress.scanWithBar_accounts` — the bar accounts for every iteration, and
  `Progress.scanWithBar_tooMany` — a number of iterations that it does not count.
* `Progress.bar_perform_run` — the bar of a session is such a bar, over cycles.
-/

namespace ChipEight.Progress

/-! ## The events of a run -/

theorem iterations_succ (k : Nat) :
    iterations ((k + 1 : Nat) : Int) = iterations (k : Int) ++ [(k : Int)] := by
  simp only [iterations, Int.toNat_natCast, List.range_succ, List.map_append]
  rfl

namespace Bar

variable {σ : Type}

/-- The bar behind some iterations. -/
def reached (b : Bar) (is : List Int) : Bar := is.foldl (fun b i => (b.before i).1) b

/-- What a bar is told by later iterations comes behind what it was told by earlier ones. -/
theorem snd_scan_append (b : Bar) (body : σ → Int → σ) (s : σ) (is js : List Int) :
    (b.scan body s (is ++ js)).2 =
      (b.scan body s is).2 ++ ((b.reached is).scan body (is.foldl body s) js).2 := by
  induction is generalizing b s with
  | nil => rfl
  | cons i rest ih =>
    simp only [List.cons_append, scan, ih, reached, List.foldl_cons, List.append_assoc]

/-- A bar is open from the first iteration on. -/
theorem reached_iterations (p : Plan) (k : Nat) :
    reached { plan := p } (iterations ((k + 1 : Nat) : Int)) = { plan := p, isOpen := true } := by
  induction k with
  | zero => rfl
  | succ k ih =>
    have hne : ((k + 1 : Nat) : Int) ≠ 0 := by omega
    rw [iterations_succ, reached, List.foldl_append]
    refine (congrArg (fun b : Bar => (b.before ((k + 1 : Nat) : Int)).1) ih).trans ?_
    simp only [before, if_neg hne]

/-- What an open bar is told by a later iteration. -/
theorem snd_scan_later (p : Plan) (body : σ → Int → σ) (s : σ) {r k N : Nat}
    (hrate : p.rate = r) (hlast : p.last = some ((N : Int) - 1)) (hk : 0 < k) :
    (Bar.scan { plan := p, isOpen := true } body s [(k : Int)]).2 =
      (if r ∣ k then [Event.advanced p.amount] else []) ++
        if k + 1 = N then [Event.advanced p.lastStep, Event.closed] else [] := by
  have hne : (k : Int) ≠ 0 := by omega
  have hpos : (0 : Int) < k := by omega
  have hmultiple : Int.fmod (k : Int) p.rate = 0 ↔ r ∣ k := by
    rw [hrate, Int.fmod_eq_emod_of_nonneg _ (Int.natCast_nonneg r), ← Int.natCast_emod,
      Int.natCast_eq_zero, Nat.dvd_iff_mod_eq_zero]
  have hend : some (k : Int) = p.last ↔ k + 1 = N := by
    rw [hlast, Option.some_inj]
    omega
  simp only [scan, before, after, if_neg hne, hmultiple, hend, hpos, and_true, List.nil_append,
    List.append_nil]

/-- **The events up to an iteration.**  After the iteration `k` of `N` the bar was opened, it moved
on once for every multiple of its rate, and if that was the last iteration it was told what was
missing and closed. -/
theorem snd_scan_iterations (p : Plan) (body : σ → Int → σ) (s : σ) {r k N : Nat}
    (hrate : p.rate = r) (hlast : p.last = some ((N : Int) - 1)) (hk : k < N) :
    (Bar.scan { plan := p } body s (iterations ((k + 1 : Nat) : Int))).2 =
      Event.opened p.caption p.total p.options ::
        (List.replicate (k / r) (Event.advanced p.amount) ++
          if k + 1 = N then [Event.advanced p.lastStep, Event.closed] else []) := by
  induction k with
  | zero =>
    have hend : some (0 : Int) = p.last ↔ 0 + 1 = N := by
      rw [hlast, Option.some_inj]
      omega
    have hfirst : iterations ((0 + 1 : Nat) : Int) = [0] := rfl
    rw [hfirst]
    simp [scan, before, after, hend]
  | succ k ih =>
    -- the iterations before were not the last one
    have hnot : ¬ k + 1 = N := by omega
    rw [iterations_succ, snd_scan_append, ih (by omega), reached_iterations,
      snd_scan_later p body _ hrate hlast (Nat.succ_pos k), if_neg hnot, Nat.succ_div,
      ← List.replicate_append_replicate]
    by_cases hdvd : r ∣ k + 1
    · simp [hdvd]
    · simp [hdvd]

end Bar

/-! ## The numbers of a bar -/

namespace Plan

theorem one_le_stepFor (total : Int) (rate : Option Int) : 1 ≤ stepFor total rate := by
  cases rate <;> simp only [stepFor] <;> omega

/-- What is left for the last step, with a step that is a natural number. -/
theorem leftOver_natCast (k r : Nat) :
    leftOver ((k + 1 : Nat) : Int) r = (k + 1 : Int) - (k / r * r : Nat) := by
  have hlast : ((k + 1 : Nat) : Int) - 1 = k := by omega
  rw [leftOver, hlast, ← Int.ofNat_fdiv]
  omega

end Plan

/-! ## Runs with a bar -/

/-- A run with a bar, or why it does not begin: the iterations are told apart by their numbers,
which have 32 bits with a sign, and so has the number of all of them. -/
def scanWithBar {σ : Type} (total : Int) (rate : Option Int) (caption : Option Value)
    (options : List (String × Value)) (body : σ → Int → σ) (s : σ) :
    Except WidthError (σ × List Event) :=
  scan? (Plan.make total rate caption options) total body s

/-- The first event of a bar. -/
def opening (total : Int) (caption : Option Value) (options : List (String × Value)) : Event :=
  .opened (caption.getD (Plan.defaultCaption (Text.grouped total))) (.int total)
    (Plan.passedOn options)

/-! ## What the moves add up to -/

/-- How far a bar moves on, one move after the other, in `k + 1` iterations with steps of `r`. -/
def moves (k r : Nat) : List Int :=
  List.replicate (k / r) (r : Int) ++ [Plan.leftOver ((k + 1 : Nat) : Int) r]

/-- The last step is never empty, also if the last iteration is a multiple of the rate: what is
counted up to it are the iterations before. -/
theorem one_le_of_mem_moves {k r : Nat} (hr : 1 ≤ r) {m : Int} (h : m ∈ moves k r) : 1 ≤ m := by
  rw [moves, List.mem_append, List.mem_singleton] at h
  rcases h with hstep | hlast
  · rw [List.eq_of_mem_replicate hstep]
    omega
  · have hle : k / r * r ≤ k := Nat.div_mul_le_self k r
    rw [hlast, Plan.leftOver_natCast]
    omega

theorem sum_steps (q r : Nat) : (List.replicate q (r : Int)).sum = (q * r : Nat) := by
  rw [List.sum_replicate, nsmul_eq_mul]
  exact (Int.natCast_mul q r).symm

theorem sum_moves (k r : Nat) : (moves k r).sum = ((k + 1 : Nat) : Int) := by
  rw [moves, List.sum_append, sum_steps, Plan.leftOver_natCast]
  simp only [List.sum_cons, List.sum_nil]
  omega

/-- The moves up to an iteration are the first ones of the run. -/
theorem steps_prefix_moves {j k : Nat} (h : j ≤ k) (r : Nat) :
    List.replicate (j / r) (r : Int) <+: moves k r := by
  have hle : j / r ≤ k / r := Nat.div_le_div_right h
  have hsplit : k / r = j / r + (k / r - j / r) := by omega
  rw [moves, hsplit, ← List.replicate_append_replicate, List.append_assoc]
  exact List.prefix_append _ _

/-- The bar never gets ahead of the iterations. -/
theorem sum_steps_le (j r : Nat) : (List.replicate (j / r) (r : Int)).sum ≤ (j : Int) := by
  have hle : j / r * r ≤ j := Nat.div_mul_le_self j r
  rw [sum_steps]
  omega

section Accounts

variable {σ : Type} (body : σ → Int → σ) (s : σ) {total : Int} {rate : Option Int}
  (caption : Option Value) (options : List (String × Value))

/-- A run that can be counted is done, whatever it is that it does. -/
theorem scanWithBar_of_lt (hpos : 1 ≤ total) (h : total < 0x80000000) :
    scanWithBar total rate caption options body s =
      .ok (scan (Plan.make total rate caption options) total body s) := by
  have hplan := Plan.checkWidth_make (Int.le_trans (by decide) hpos) h rate caption options
  have hrun : checkRun (Plan.make total rate caption options) total = .ok () :=
    checkRun_of_lt hplan h
  rw [scanWithBar, scan?, hrun]
  rfl

/-- A run that cannot be counted is not begun. -/
theorem scanWithBar_of_le (h : 0x80000000 ≤ total) :
    ∃ e, scanWithBar total rate caption options body s = .error e := by
  obtain ⟨e, he⟩ := checkRun_of_le (some (Plan.make total rate caption options)) h
  refine ⟨e, ?_⟩
  rw [scanWithBar, scan?, he]
  rfl

/-- A run without iterations does not open its bar. -/
theorem scanWithBar_of_nonpos (h : total ≤ 0) :
    scanWithBar total rate caption options body s =
      if -0x80000000 < total then .ok (s, []) else .error (.argument "y" (total - 1)) := by
  have hnone : iterations total = [] := by
    simp [iterations, Int.toNat_of_nonpos h]
  have hstep : WidthError.fits (Plan.stepFor total rate) = true :=
    Plan.fits_stepFor (by omega) rate
  have hcount : WidthError.fits total.toNat = true := decide_eq_true (by omega)
  have hlast : WidthError.fits (total - 1) = true ↔ -0x80000000 < total := by
    rw [WidthError.fits, decide_eq_true_iff]
    omega
  simp only [scanWithBar, scan?, checkRun_some, Plan.checkWidth, Plan.make,
    WidthError.checkArgument, hstep, hlast, hcount, if_true, scan, hnone, Bar.scan]
  by_cases hfits : -0x80000000 < total
  · simp only [if_pos hfits]
    rfl
  · simp only [if_neg hfits]
    rfl

/-- The events up to an iteration before the last one. -/
theorem snd_scan_make_of_lt {j k r : Nat} (hstep : Plan.stepFor ((k + 1 : Nat) : Int) rate = r)
    (hj : j < k) :
    (Bar.scan { plan := Plan.make ((k + 1 : Nat) : Int) rate caption options } body s
        (iterations ((j + 1 : Nat) : Int))).2 =
      opening ((k + 1 : Nat) : Int) caption options ::
        (List.replicate (j / r) (r : Int)).map .advanced := by
  have hnot : ¬ j + 1 = k + 1 := by omega
  rw [Bar.snd_scan_iterations _ body s hstep rfl (by omega : j < k + 1), if_neg hnot,
    List.append_nil, List.map_replicate]
  simp only [Plan.make, hstep, opening]

/-- All events of a run. -/
theorem snd_scan_make {k r : Nat} (hstep : Plan.stepFor ((k + 1 : Nat) : Int) rate = r) :
    (scan (Plan.make ((k + 1 : Nat) : Int) rate caption options) ((k + 1 : Nat) : Int) body s).2 =
      opening ((k + 1 : Nat) : Int) caption options ::
        ((moves k r).map .advanced ++ [.closed]) := by
  rw [scan, Bar.snd_scan_iterations _ body s hstep rfl (Nat.lt_succ_self k), if_pos rfl, moves,
    List.map_append, List.map_replicate, List.append_assoc]
  simp only [Plan.make, hstep, opening]
  rfl

/-- **The bar accounts for every iteration.**  A run that can be counted opens its bar first, moves
it on by at least one each time and by the number of iterations in all, never ahead of them, and
closes it last; what the run does is what its iterations do.  Any other run has no events: one
without iterations, and one that is refused because it cannot be counted. -/
theorem scanWithBar_accounts {σ : Type} (body : σ → Int → σ) (s : σ) (total : Int)
    (rate : Option Int) (caption : Option Value) (options : List (String × Value)) :
    (1 ≤ total → total < 0x80000000 →
      ∃ amounts : List Int,
        scanWithBar total rate caption options body s =
            .ok ((iterations total).foldl body s,
              opening total caption options :: (amounts.map .advanced ++ [.closed])) ∧
          (∀ m ∈ amounts, 1 ≤ m) ∧ amounts.sum = total ∧
          ∀ i, 0 ≤ i → i < total - 1 →
            ∃ made, made <+: amounts ∧ made.sum ≤ i ∧
              (Bar.scan { plan := Plan.make total rate caption options } body s
                  (iterations (i + 1))).2 =
                opening total caption options :: made.map .advanced) ∧
      (0x80000000 ≤ total →
        ∃ e, scanWithBar total rate caption options body s = .error e) ∧
      (total ≤ 0 →
        scanWithBar total rate caption options body s =
          if -0x80000000 < total then .ok (s, []) else .error (.argument "y" (total - 1))) := by
  refine ⟨?_, scanWithBar_of_le body s caption options,
    scanWithBar_of_nonpos body s caption options⟩
  intro hpos hlt
  obtain ⟨k, rfl⟩ : ∃ k : Nat, total = ((k + 1 : Nat) : Int) := ⟨(total - 1).toNat, by omega⟩
  have hone := Plan.one_le_stepFor ((k + 1 : Nat) : Int) rate
  obtain ⟨r, hstep⟩ : ∃ r : Nat, Plan.stepFor ((k + 1 : Nat) : Int) rate = r :=
    ⟨(Plan.stepFor ((k + 1 : Nat) : Int) rate).toNat, by omega⟩
  refine ⟨moves k r, ?_, ?_, sum_moves k r, ?_⟩
  · rw [scanWithBar_of_lt body s caption options hpos hlt]
    have hresult := Bar.fst_scan { plan := Plan.make ((k + 1 : Nat) : Int) rate caption options }
      body s (iterations ((k + 1 : Nat) : Int))
    exact congrArg Except.ok (Prod.ext hresult (snd_scan_make body s caption options hstep))
  · intro m hm
    exact one_le_of_mem_moves (by omega) hm
  · intro i hi hlast
    obtain ⟨j, rfl⟩ := Int.eq_ofNat_of_zero_le hi
    have hj : j < k := by omega
    refine ⟨List.replicate (j / r) (r : Int), ?_, sum_steps_le j r, ?_⟩
    · exact steps_prefix_moves (Nat.le_of_lt hj) r
    · exact snd_scan_make_of_lt body s caption options hstep hj

end Accounts

/-- Eleven iterations in steps of four: the bar moves on twice and then by what is missing, and it
does not get ahead of the iteration nine. -/
theorem scanWithBar_accounts_uneven :
    (1 : Int) ≤ 11 ∧ (11 : Int) < 0x80000000 ∧
      ∃ amounts : List Int,
        scanWithBar 11 (some 4) none [] (fun count _ => count + 1) (0 : Int) =
            .ok (11, opening 11 none [] :: (amounts.map .advanced ++ [.closed])) ∧
          (∀ m ∈ amounts, 1 ≤ m) ∧ amounts.sum = 11 ∧
          ∃ made, made <+: amounts ∧ made.sum ≤ 9 := by
  obtain ⟨amounts, hresult, hpos, hsum, hahead⟩ :=
    (scanWithBar_accounts (fun count _ => count + 1) (0 : Int) 11 (some 4) none []).1
      (by decide) (by decide)
  obtain ⟨made, hprefix, hle, -⟩ := hahead 9 (by decide) (by decide)
  exact ⟨by decide, by decide, amounts, hresult, hpos, hsum, made, hprefix, hle⟩

/-- More iterations than can be told apart: a run that adds them up is refused, and does not open
its bar. -/
theorem scanWithBar_tooMany :
    1 ≤ (0x80000001 : Int) ∧
      scanWithBar 0x80000001 none none [] (fun count _ => count + 1) (0 : Int) =
        .error (.argument "y" 0x80000000) ∧
      ¬ ∃ events, scanWithBar 0x80000001 none none [] (fun count _ => count + 1) (0 : Int) =
        .ok ((iterations 0x80000001).foldl (fun count _ => count + 1) 0, events) := by
  have hrefused : scanWithBar 0x80000001 none none [] (fun count _ => count + 1) (0 : Int) =
      .error (.argument "y" 0x80000000) := rfl
  refine ⟨by decide, hrefused, ?_⟩
  rintro ⟨events, hdone⟩
  rw [hrefused] at hdone
  cases hdone

/-! ## The bar of a session -/

theorem bar_checked (session : Session) (report : Report) :
    (session.checked report).report.bar = report.bar := by
  unfold Session.checked
  split <;> rfl

/-- What the bar of a session is told while it does cycles: a run with a bar, whose body is a cycle.
A run that is refused tells it nothing. -/
theorem bar_perform_run (session : Session) (cycles : Int) :
    (session.perform (.run cycles true)).report.bar =
      match scanWithBar cycles none none [] (fun m _ => Machine.cycle m) session.machine with
      | .ok (_, events) => events
      | .error _ => [] := by
  have hcheck : (Count.whole cycles true).check =
      checkRun (Plan.make cycles none none []) cycles := rfl
  rw [Session.perform, Session.cycled, scanWithBar, scan?, hcheck]
  cases checkRun (Plan.make cycles none none []) cycles with
  | error e => rfl
  | ok u => exact bar_checked _ _

end ChipEight.Progress
