import ChipEight.Machine.Perform
import ChipEight.Number

/-!
# Progress bars

A bar is opened by the first iteration of a run, moves on at every multiple of its
rate, and is filled and closed by the last iteration: `build_tqdm_progress_bar` plans it, and
`scan_with_progress` puts it around the body of a scan.  The bar itself is only what is asked of
it: a list of events.
-/

namespace ChipEight.Progress

/-- What is asked of a bar. -/
inductive Event
  | opened (caption total : Value) (options : List (String × Value))
  | advanced (amount : Int)
  | closed

/-- Why a bar cannot be planned. -/
inductive PlanError
  /-- A number of iterations that is a text and does not fit a caption. -/
  | captionText
  /-- A number of iterations that is no number and does not fit a caption. -/
  | captionKind (kind : String)
  /-- A number of iterations that is no number. -/
  | totalKind (kind : String)
  /-- A rate that cannot be compared with the number of iterations. -/
  | rateKind (total rate : String)
  /-- An option that the bar was given already, with who was given it. -/
  | repeated (receiver name : String)
deriving DecidableEq, Repr

/-- The wording of the error. -/
def PlanError.message : PlanError → String
  | .captionText => "Cannot specify ',' with 's'."
  | .captionKind kind => "unsupported format string passed to " ++ kind ++ ".__format__"
  | .totalKind kind => "unsupported operand type(s) for //: '" ++ kind ++ "' and 'int'"
  | .rateKind total rate =>
    "'<' not supported between instances of '" ++ total ++ "' and '" ++ rate ++ "'"
  | .repeated receiver name =>
    receiver ++ "() got multiple values for argument '" ++ name ++ "'"

/-- A bar that is going to be shown. -/
structure Plan where
  /-- How many iterations there are, as the bar shows it. -/
  total : Value
  /-- How many iterations make a step. -/
  rate : Int
  /-- How far a step moves the bar on. -/
  amount : Int
  /-- The iteration that closes the bar. -/
  last : Option Int
  /-- How many iterations are left for the last step. -/
  lastStep : Int
  caption : Value
  options : List (String × Value)

namespace Plan

/-- The caption of a bar that was given none. -/
def defaultCaption (total : String) : Value := .text ("Running (" ++ total ++ " cycles)")

/-- The options that the bar decides itself. -/
def reserved : List String := ["total", "mininterval", "maxinterval", "miniters"]

/-- The options that the bar passes on. -/
def passedOn (options : List (String × Value)) : List (String × Value) :=
  options.filter fun o => !reserved.contains o.1

/-- The step of a bar: a twentieth of the iterations but at most fifty if none was asked
for, and in any case between one and all of them. -/
def stepFor (total : Int) (rate : Option Int) : Int :=
  match rate with
  | none => max 1 (min (Int.fdiv total 20) 50)
  | some r => max 1 (min r total)

/-- What is left of a number of iterations for the last step: `final_chunk`. -/
def leftOver (total step : Int) : Int := total - Int.fdiv (total - 1) step * step

/-- Plans a bar: `build_tqdm_progress_bar` for whole numbers. -/
def make (total : Int) (rate : Option Int) (caption : Option Value)
    (options : List (String × Value)) : Plan :=
  let step := stepFor total rate
  { total := .int total
    rate := step
    amount := step
    last := some (total - 1)
    lastStep := leftOver total step
    caption := caption.getD (defaultCaption (Text.grouped total))
    options := passedOn options }

/-! ### Numbers with a fraction -/

/-- A number, but no less than a bound. -/
def atLeast (bound x : Rat) : Rat := if x < bound then bound else x

/-- A number, but no more than a bound. -/
def atMost (bound x : Rat) : Rat := if bound < x then bound else x

/-- The step of a bar for numbers that may have a fraction. -/
def stepForFraction (total : Rat) (rate : Option Rat) : Rat :=
  match rate with
  | none => atLeast 1 (atMost 50 (total / 20).floor)
  | some r => atLeast 1 (atMost total r)

/-- Plans a bar for numbers that may have a fraction.  An iteration is a multiple of a
fractional step if it is one of the step's numerator.  A bar whose total has a fraction is
never closed, since no iteration is its last one. -/
def makeFraction (shown : Value) (total : Rat) (rate : Option Rat) (caption : Value)
    (options : List (String × Value)) : Plan :=
  let step := stepForFraction total rate
  { total := shown
    rate := step.num
    amount := step.floor
    last := if total.den = 1 then some (total.num - 1) else none
    lastStep := (total - ((total - 1) / step).floor * step).floor
    caption := caption
    options := passedOn options }

/-- Plans a bar for a total that is infinite or no number; it is never closed. -/
def makeEndless (shown : Value) (rate : Option Rat) (caption : Value)
    (options : List (String × Value)) : Plan :=
  let step := atLeast 1 (rate.getD 1)
  { total := shown
    rate := step.num
    amount := step.floor
    last := none
    lastStep := 0
    caption := caption
    options := passedOn options }

/-! ### Values of the host -/

/-- The caption of a bar, or why there can be none for its total. -/
def captionFor (total : Value) : Except PlanError Value :=
  match total with
  | .int n => .ok (defaultCaption (Text.grouped n))
  | .bool b => .ok (defaultCaption (Text.grouped (if b then 1 else 0)))
  | .float x => .ok (defaultCaption (Text.shortestGrouped x))
  | .text _ => .error .captionText
  | v => .error (.captionKind v.kind)

/-- A rate that was asked for, next to a total.  What is beyond all numbers counts as the
total, and what is none or below them as one. -/
def rateOf (total : Option Rat) (x : Number) : Rat :=
  match x with
  | .whole n => n
  | .float x =>
    match x with
    | .finite y => y.toRat
    | .infinite false => total.getD 1
    | _ => 1

/-- Plans a bar for values of the host: `build_tqdm_progress_bar`.  A null rate or caption was not
given. -/
def ofValues (total rate caption : Value) (options : List (String × Value)) :
    Except PlanError Plan := do
  let title ← match caption with
    | .null => captionFor total
    | v => .ok v
  match total, rate with
  | .int n, .null => return make n none (some title) options
  | .int n, .int r => return make n (some r) (some title) options
  | _, _ =>
    let count ← match Number.ofValue? total, rate with
      | some x, _ => .ok x
      | none, .null => .error (.totalKind total.kind)
      | none, r => .error (.rateKind total.kind r.kind)
    let exact : Option Rat := match count with
      | .whole n => some n
      | .float x => x.toRat?
    let asked ← match rate, Number.ofValue? rate with
      | .null, _ => .ok none
      | _, some x => .ok (some (rateOf exact x))
      | r, none => .error (.rateKind total.kind r.kind)
    match exact with
    | some t => return makeFraction total t asked title options
    | none => return makeEndless total asked title options

/-- The options that the bar is given by other means. -/
def named : List String := ["n", "print_rate", "desc"]

/-- Refuses options that were given by other means already. -/
def checkOptions (receiver : String) (options : List (String × Value)) : Except PlanError Unit :=
  match options.find? fun o => named.contains o.1 with
  | some o => .error (.repeated receiver o.1)
  | none => .ok ()

/-- The bar's own numbers have to fit where iterations are counted, if it counts in whole
numbers. -/
def checkWidth (p : Plan) : Except WidthError Unit :=
  match p.total with
  | .int n => do
    WidthError.checkArgument "x2" p.rate
    WidthError.checkArgument "y" (n - 1)
  | _ => .ok ()

/-- The step of a run is no longer than the run. -/
theorem fits_stepFor {total : Int} (h : total < 0x80000000) (rate : Option Int) :
    WidthError.fits (stepFor total rate) = true := by
  rw [WidthError.fits, decide_eq_true_eq]
  cases rate <;> simp only [stepFor] <;> omega

/-- The bar's own numbers fit if there are no more iterations than 31 bits can count. -/
theorem checkWidth_make {total : Int} (hnonneg : 0 ≤ total) (h : total < 0x80000000)
    (rate : Option Int) (caption : Option Value) (options : List (String × Value)) :
    (make total rate caption options).checkWidth = .ok () := by
  have hlast : WidthError.fits (total - 1) = true := decide_eq_true (by omega)
  simp only [checkWidth, make, WidthError.checkArgument, fits_stepFor h, hlast, if_true]
  rfl

end Plan

/-- A bar, open or not. -/
structure Bar where
  plan : Plan
  isOpen : Bool := false

namespace Bar

/-- What happens before an iteration is done: `_update_progress_bar`. -/
def before (b : Bar) (i : Int) : Bar × List Event :=
  let opening := if i = 0 then [Event.opened b.plan.caption b.plan.total b.plan.options] else []
  let b := if i = 0 then { b with isOpen := true } else b
  let step :=
    if Int.fmod i b.plan.rate = 0 ∧ 0 < i ∧ b.isOpen then [Event.advanced b.plan.amount] else []
  (b, opening ++ step)

/-- What happens after an iteration is done: `close_progress_bar`. -/
def after (b : Bar) (i : Int) : List Event :=
  if some i = b.plan.last ∧ b.isOpen then [.advanced b.plan.lastStep, .closed] else []

/-- Does iterations one after the other, with what they ask of the bar: a scan of the body that
`scan_with_progress` wraps. -/
def scan {σ : Type} (b : Bar) (body : σ → Int → σ) (s : σ) : List Int → σ × List Event
  | [] => (s, [])
  | i :: rest =>
    let (moved, events) := b.before i
    let (s, more) := moved.scan body (body s i) rest
    (s, events ++ moved.after i ++ more)

/-- A bar does not touch what it accompanies. -/
theorem fst_scan {σ : Type} (b : Bar) (body : σ → Int → σ) (s : σ) (is : List Int) :
    (b.scan body s is).1 = is.foldl body s := by
  induction is generalizing b s with
  | nil => rfl
  | cons i rest ih => simp [scan, ih]

end Bar

/-- The iterations of a run, none if `total` is not positive. -/
def iterations (total : Int) : List Int := (List.range total.toNat).map Int.ofNat

/-- A run of a number of iterations with its bar. -/
def scan {σ : Type} (p : Plan) (total : Int) (body : σ → Int → σ) (s : σ) : σ × List Event :=
  Bar.scan { plan := p } body s (iterations total)

/-- Checks a run before it begins: the numbers of its bar, if there is one, and then how many
iterations there are.  The counter of a run is compared with that number, which therefore has
to fit into 32 bits as well. -/
def checkRun (plan : Option Plan) (total : Int) : Except WidthError Unit := do
  plan.forM Plan.checkWidth
  WidthError.checkArgument "y" total.toNat

theorem checkRun_some (p : Plan) (total : Int) :
    checkRun (some p) total =
      (do
        p.checkWidth
        WidthError.checkArgument "y" total.toNat) := rfl

theorem checkRun_of_lt {plan : Option Plan} {total : Int}
    (hplan : plan.forM Plan.checkWidth = .ok ()) (h : total < 0x80000000) :
    checkRun plan total = .ok () := by
  have htotal : WidthError.fits total.toNat = true := decide_eq_true (by omega)
  rw [checkRun, hplan]
  exact if_pos htotal

/-- A run of more iterations than 31 bits can count does not begin, whatever its bar is. -/
theorem checkRun_of_le (plan : Option Plan) {total : Int} (h : 0x80000000 ≤ total) :
    ∃ e, checkRun plan total = .error e := by
  have htotal : ¬ WidthError.fits total.toNat = true := by
    rw [WidthError.fits, decide_eq_true_eq]
    omega
  rw [checkRun]
  cases plan.forM Plan.checkWidth with
  | error e => exact ⟨e, rfl⟩
  | ok _ => exact ⟨_, if_neg htotal⟩

/-- A run of a number of iterations with its bar, or why it does not begin. -/
def scan? {σ : Type} (p : Plan) (total : Int) (body : σ → Int → σ) (s : σ) :
    Except WidthError (σ × List Event) := do
  checkRun p total
  return scan p total body s

/-- Twice a number, in 32 bits with a sign. -/
def doubled (i : Int) : Int := Int.bmod (2 * i) 0x100000000

/-- Checks iterations that the host counts: the first number, then the bar, and then all
other numbers have to fit. -/
def checkCounters (p : Plan) : List Int → Except WidthError Unit
  | [] => .ok ()
  | i :: rest => do
    WidthError.checkArgument "i" i
    p.checkWidth
    rest.forM (WidthError.checkArgument "i")

end ChipEight.Progress
