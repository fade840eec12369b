import ModuleHooks.Sass.Value
/-!
# Calculations

A calculation is carried out as far as its numbers can be brought to one unit. What
remains is left to the browser, unless it is known that no browser could make sense of
it.
-/

namespace ModuleHooks.Sass.Calc

/-- What is calculated, without the name around it. -/
def bare : Calc → Calc
  | .call .calc [c] => c
  | c => c

/-- A calculation as a value. -/
def value : Calc → Value
  | .number n => .number n
  | .call name args => .calculation (.call name args)
  | c => .calculation (.call .calc [c])

/-- The units that a browser can bring to one, kind by kind. -/
def knownKinds : List (List Text) :=
  List.map (List.map String.toList)
    [["em", "ex", "ch", "rem", "vw", "vh", "vmin", "vmax", "cm", "mm", "q", "in", "pt", "pc", "px"],
      ["deg", "grad", "rad", "turn"], ["s", "ms"], ["Hz", "kHz"], ["dpi", "dpcm", "dppx"]]

/-- The kind of a unit, with all units of it. -/
def kindOf? (u : Units) : Option (List Text) :=
  u.above.head?.bind fun t => knownKinds.find? (List.elem t)

/-- Whether numbers with these units may be compared, as far as is known. -/
def mayCompare (m n : Number) : Bool :=
  if m.units.isComplex || n.units.isComplex then false
  else
    match kindOf? m.units, kindOf? n.units with
    | some a, some b => a == b
    | _, _ => true

/-- The numbers among some calculations. -/
def numbers (args : List Calc) : List Number :=
  args.filterMap fun c =>
    match c with
    | .number n => some n
    | _ => none

/-- The first two numbers that cannot be compared. -/
def firstIncomparable? : List Number → Option (Number × Number)
  | [] => none
  | m :: r => ((r.find? fun n => !mayCompare m n).map fun n => (m, n)).or (firstIncomparable? r)

/-- **Refuses numbers that no browser can calculate with.** -/
def check (args : List Calc) (span : Span) : Except Fault Unit := do
  let list := numbers args
  match list.find? fun n => n.units.isComplex with
  | some n => throw (.misplaced ("Number ".toList ++ n.write
      ++ " isn't compatible with CSS calculations.".toList) span)
  | none =>
    match firstIncomparable? list with
    | some (m, n) => throw (.misplaced (m.write ++ " and ".toList ++ n.write
        ++ " are incompatible.".toList) span)
    | none => return ()

/-- Whether two numbers have units that can be brought to one. A number without units
goes with others only inside of the functions that had another meaning before. -/
def compatible (isLenient : Bool) (m n : Number) : Bool :=
  Units.comparable m.units n.units && (isLenient || m.units.isNone == n.units.isNone)

/-- **An operation inside of a calculation.** -/
def operate (op : BinaryOp) (a b : Calc) (isLenient : Bool) (span : Span) : Except Fault Calc := do
  let a := a.bare
  let b := b.bare
  let kept : Except Fault Calc := do
    check [a, b] span
    match b with
    | .number n =>
      if Binary.lt n.value .zero then
        return .operation (if op = .plus then .minus else .plus) a (.number n.neg)
      else return .operation op a b
    | _ => return .operation op a b
  match op, a, b with
  | .plus, .number m, .number n => if compatible isLenient m n then return .number (m.add n) else kept
  | .minus, .number m, .number n => if compatible isLenient m n then return .number (m.sub n) else kept
  | .plus, _, _ => kept
  | .minus, _, _ => kept
  | .times, .number m, .number n => return .number (m.mul n)
  | _, .number m, .number n => return .number (m.div n)
  | _, _, _ => return .operation op a b

/-- The number among some calculations that comes before all others, if they are all
numbers that can be compared. -/
def extreme? (comesFirst : Ordering) : List Calc → Option Number
  | [] => none
  | first :: rest =>
    rest.foldl
      (fun best c =>
        match best, c with
        | some m, .number n =>
          if !Units.comparable m.units n.units then none
          else if n.order? m == some comesFirst then some n
          else some m
        | _, _ => none)
      (match first with
        | .number n => some n
        | _ => none)

/-- The least or the greatest of some calculations. -/
def extreme (name : CalcName) (args : List Calc) (span : Span) : Except Fault Value := do
  match extreme? (if name = .min then .lt else .gt) args with
  | some n => return .number n
  | none =>
    check args span
    return .calculation (.call name args)

/-- Whether a calculation is a text, in which several arguments may hide. -/
def isText : Calc → Bool
  | .text _ => true
  | .code _ => true
  | _ => false

/-- A calculation between two others. -/
def clamped (args : List Calc) (span : Span) : Except Fault Value := do
  let kept : Except Fault Value := do
    if args.length != 3 && !args.any isText then
      throw (.misplaced ("3 arguments required, but only ".toList ++ Text.ofNat args.length
        ++ (if args.length = 1 then " was passed." else " were passed.").toList) span)
    check args span
    return .calculation (.call .clamp args)
  match args with
  | [.number low, .number n, .number high] =>
    if Units.comparable low.units n.units && Units.comparable low.units high.units then
      if (n.order? low).any (· != .gt) then return .number low
      else if (n.order? high).any (· != .lt) then return .number high
      else return .number n
    else kept
  | _ => kept

/-- **A calculation carried out**, as far as it goes. -/
def finish (name : CalcName) (args : List Calc) (span : Span) : Except Fault Value :=
  let args := args.map bare
  match name with
  | .calc => .ok (args.headD (.text [])).value
  | .min => extreme name args span
  | .max => extreme name args span
  | .clamp => clamped args span

/-- A value inside of a calculation. -/
def ofValue (v : Value) (span : Span) : Except Fault Calc :=
  match v with
  | .number n => .ok (.number n)
  | .calculation c => .ok c
  | .text t false => .ok (.text t)
  | v => .error (.misplaced ("Value ".toList ++ v.inspect
      ++ " can't be used in a calculation.".toList) span)

end ModuleHooks.Sass.Calc
