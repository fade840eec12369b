import ModuleHooks.Binary.Elementary
import ModuleHooks.Css.Quantity.Basic
import ModuleHooks.Css.Reading
/-!
# Reading quantities

A quantity stands by itself, or as a mathematical function whose arguments are sums of
products. What can be computed is computed at once; a function whose arguments cannot be
compared or added stays, with its arguments in the form to which they were brought.
-/

namespace ModuleHooks.Css

namespace Reading

/-- A plain number. -/
def plainNumber : Reading Binary :=
  expect fun c =>
    match c.head with
    | .number n => some n.value
    | _ => none

/-- A whole number. -/
def integer : Reading Int :=
  expect fun c =>
    match c.head with
    | .number n => n.integer
    | _ => none

/-- The amount that a token is. -/
def amountOf? (d : Dimension) (t : Token) : Option Amount :=
  match t with
  | .percentage n => if d.hasPercentages then some ⟨n.value, ['%']⟩ else none
  | .dimension n unit =>
    let unit := Text.lowerAscii unit
    if List.elem unit d.units then some ⟨n.value, unit⟩ else none
  | .number n => if d.hasPixels then some ⟨n.value, "px"⟩ else none
  | _ => none

/-- An amount without any expression. -/
def plainAmount (d : Dimension) : Reading Amount := expect fun c => amountOf? d c.head

/-- The constants of expressions. -/
def constant? (name : Text) : Option Binary :=
  if Text.eqIgnoringCase name "e" then some (ratioOf 2718281828459045235 1000000000000000000)
  else if Text.eqIgnoringCase name "pi" then some (ratioOf 3141592653589793238 1000000000000000000)
  else if Text.eqIgnoringCase name "infinity" then some (.infinite false)
  else if Text.eqIgnoringCase name "-infinity" then some (.infinite true)
  else if Text.eqIgnoringCase name "nan" then some .nan
  else none

/-! ### Functions -/

/-- The order of two quantities, as far as it shows. -/
def order? (p q : Quantity) : Option Ordering :=
  match p, q with
  | .amount a, .amount b => a.compare? b
  | .number x, .number y => Binary.compare? x y
  | _, _ => none

/-- Puts an argument among those before it: it replaces or yields to one that can be
compared with it. -/
def reduceInto (wanted : Ordering) (q : Quantity) : List Quantity → List Quantity
  | [] => [q]
  | p :: r =>
    match order? q p with
    | some o => (if o = wanted then q else p) :: r
    | none => p :: reduceInto wanted q r

/-- The arguments of a smallest or largest value without those that others outdo. -/
def reduceAll (wanted : Ordering) (qs : List Quantity) : List Quantity :=
  qs.foldl (fun l q => reduceInto wanted q l) []

/-- The smallest or the largest of some quantities. -/
def extremum (name : Text) (wanted : Ordering) (qs : List Quantity) : Quantity :=
  match reduceAll wanted qs with
  | [q] => q
  | qs => .call name qs

/-- A quantity between two others: a bound that it is known to keep is left away, and one
that it is known to pass takes its place. The lower bound counts more. -/
def clamped (low q high : Quantity) : Quantity :=
  let capped : Quantity × List Quantity :=
    match order? q high with
    | some .gt => (high, [])
    | some _ => (q, [])
    | none => (q, [high])
  let raised : Quantity × List Quantity :=
    match order? capped.1 low with
    | some .lt => (low, [])
    | some _ => (capped.1, [])
    | none => (capped.1, [low])
  match raised.2, raised.1, capped.2 with
  | [], q, [] => q
  | low, q, [] => .call "max" (low ++ [q])
  | [], q, high => .call "min" (q :: high)
  | low, q, high => .call "clamp" (low ++ q :: high)

/-- What an operation makes of two quantities of one kind. -/
def applyBoth? (op : Binary → Binary → Binary) (p q : Quantity) : Option Quantity :=
  match p, q with
  | .amount a, .amount b => (a.combine? op b).map .amount
  | .number x, .number y => some (.number (op x y))
  | _, _ => none

/-- What a function makes of a quantity; of a percentage nothing is known. -/
def applyOne? (f : Binary → Binary) (q : Quantity) : Option Quantity :=
  match q with
  | .amount a => if a.unit = ['%'] then none else some (.amount ⟨f a.value, a.unit⟩)
  | .number x => some (.number (f x))
  | _ => none

/-- A number rounded to a multiple of a step. -/
def roundTo (way : Rounding) (x step : Binary) : Binary :=
  let direction : Binary.Direction :=
    match way with
    | .nearest => .nearest
    | .up => .up
    | .down => .down
    | .toZero => .toZero
  mul ((div x step).toWhole .single direction) step

/-- The remainder with the sign of the divisor. -/
def modulo (x y : Binary) : Binary :=
  Binary.rem .single (add (Binary.rem .single x y) y) y

/-- The length of the diagonal of a rectangle. -/
def diagonal (x y : Binary) : Binary :=
  (Binary.sqrt .double (Binary.add .double (Binary.mul .double x x)
    (Binary.mul .double y y))).convert .single

/-- The root of the sum of the squares of some quantities, as far as it can be known. -/
def hypotenuse? : List Quantity → Option Quantity
  | [] => none
  | [q] => applyOne? Binary.abs q
  | [p, q] => applyBoth? diagonal p q
  | q :: more => do
    let first ← applyOne? (fun x => mul x x) q
    let total ← more.foldlM (fun sum q => applyBoth? (fun x y => add x (mul y y)) sum q) first
    applyOne? (Binary.sqrt .single) total

/-- One with the sign of a number, or nought. -/
def signOf (x : Binary) : Binary :=
  if x.isZero then x else if x.isNegative then num (-1) else num 1

/-- The sign of a quantity; it is a number. -/
def signOf? : Quantity → Option Quantity
  | .number x => some (.number (signOf x))
  | .amount a => if a.unit = ['%'] then none else some (.number (signOf a.value))
  | _ => none

/-- An angle in radians. -/
def radians? (a : Amount) : Option Binary :=
  if a.unit = ("rad" : Text) then some a.value
  else a.base?.map fun d =>
    mul d.value (ratioOf 17453292519943295769 1000000000000000000000)

/-- A function of an angle or a number. -/
def circular (f : BinaryFormat → Binary → Binary) (q : Quantity) : Option Quantity :=
  match q with
  | .amount a => (radians? a).map fun x => .number (f .single x)
  | .number x => some (.number (f .single x))
  | _ => none

/-- A quantity that is an angle of so many radians, where angles are allowed. -/
def angleOf (d : Dimension) (x : Binary) : Reading Quantity :=
  if x.isNan then return .number x
  else if d.isAngle then return .amount ⟨x, "rad"⟩
  else failHere .invalidValue

/-- A result, or a fault where there is none. -/
def resultOf {α : Type} (r : Option α) : Reading α :=
  match r with
  | some a => return a
  | none => failHere .invalidValue

/-- The word for a rounding, with the comma after it. -/
def rounding : Reading Rounding := do
  let word ← keywordOf (["nearest", "up", "down", "to-zero"].map String.toList)
  comma
  return if word = ("up" : Text) then .up else if word = ("down" : Text) then .down
    else if word = ("to-zero" : Text) then .toZero else .nearest

/-- The functions of numbers with one argument. -/
def numericFunction? (name : Text) : Option (Binary → Binary) :=
  if name = ("sqrt" : Text) then some (Binary.sqrt .single)
  else if name = ("exp" : Text) then some (Binary.exponential .single)
  else none

/-- The functions of angles. -/
def circularFunction? (name : Text) : Option (BinaryFormat → Binary → Binary) :=
  if name = ("sin" : Text) then some Binary.sin
  else if name = ("cos" : Text) then some Binary.cos
  else if name = ("tan" : Text) then some Binary.tan
  else none

/-- The functions whose results are angles. -/
def arcFunction? (name : Text) : Option (BinaryFormat → Binary → Binary) :=
  if name = ("asin" : Text) then some Binary.arcsin
  else if name = ("acos" : Text) then some Binary.arccos
  else if name = ("atan" : Text) then some Binary.arctan
  else none

/-- The functions of two quantities of one kind, with what they are called. -/
def binaryFunction? (name : Text) : Option (Binary → Binary → Binary) :=
  if name = ("rem" : Text) then some (Binary.rem .single)
  else if name = ("mod" : Text) then some modulo
  else none

/-- The kinds of the arguments of the angle of a point, in the order in which they are
tried. -/
def pointDimensions : List Dimension :=
  [.length, .percentage, .angle, .time, .number]

/-- The angle of a point whose coordinates are of one kind. -/
def pointAngle? (y x : Quantity) : Option Binary :=
  match y, x with
  | .amount a, .amount b => (a.together? b).map fun (y, x, _) => Binary.arctan₂ .single y x
  | .number y, .number x => some (Binary.arctan₂ .single y x)
  | _, _ => none

mutual

/-- A sum of products. The first argument bounds the depth. -/
def quantitySum : Nat → Dimension → Reading Quantity
  | 0, _ => failHere .tooDeep
  | n + 1, d => do
    let first ← quantityProduct n d
    quantityTerms n d first

/-- Further terms of a sum. -/
def quantityTerms : Nat → Dimension → Quantity → Reading Quantity
  | 0, _, q => return q
  | n + 1, d, q => do
    match ← peekSpaced? with
    | some c =>
      if !c.isSpace then return q
      else if ← isDone then
        skipBlanks
        return q
      else
        let op ← next
        if Stream.isDelim '+' op then
          let r ← quantityProduct n d
          quantityTerms n d (q.combine r)
        else if Stream.isDelim '-' op then
          let r ← quantityProduct n d
          quantityTerms n d (q.combine (r.times (num (-1))))
        else unexpected op
    | none => return q

/-- A product. -/
def quantityProduct : Nat → Dimension → Reading Quantity
  | 0, _ => failHere .tooDeep
  | n + 1, d => do
    let first ← quantityValue n d
    quantityFactors n d first

/-- Further factors of a product. -/
def quantityFactors : Nat → Dimension → Quantity → Reading Quantity
  | 0, _, q => return q
  | n + 1, d, q => do
    match ← attempt (delim '*') with
    | some _ =>
      let r ← quantityValue n d
      match q, r with
      | q, .number x => quantityFactors n d (q.times x)
      | .number x, r => quantityFactors n d (r.times x)
      | _, _ => failHere .invalidValue
    | none =>
      match ← attempt (delim '/') with
      | some _ =>
        let r ← quantityValue n d
        match r with
        | .number x =>
          if x.isZero then failHere .invalidValue
          else quantityFactors n d (q.times (div (num 1) x))
        | _ => failHere .invalidValue
      | none => return q

/-- One value of an expression. -/
def quantityValue : Nat → Dimension → Reading Quantity
  | 0, _ => failHere .tooDeep
  | n + 1, d => do
    match ← attempt (quantityCall n d) with
    | some (.call name [q]) => return if name = ("calc" : Text) then q else .call name [q]
    | some q => return q
    | none =>
      match ← attempt roundBlock with
      | some c => inside c (quantitySum n d)
      | none =>
        match ← attempt plainNumber with
        | some x => return .number x
        | none =>
          match ← attempt (expect fun c => (Stream.identOf? c).bind constant?) with
          | some x => return .number x
          | none => return .amount (← plainAmount d)

/-- A number that is an argument of a function. -/
def quantityNumber : Nat → Reading Binary
  | 0 => failHere .tooDeep
  | n + 1 => do
    match ← quantitySum n .number with
    | .number x => return x
    | _ => failHere .invalidValue

/-- Two quantities with a comma between them. -/
def quantityPair : Nat → Dimension → Reading (Quantity × Quantity)
  | 0, _ => failHere .tooDeep
  | n + 1, d => do
    let p ← quantitySum n d
    comma
    return (p, ← quantitySum n d)

/-- The angle of a point, with coordinates of the first kind in which both can be read. -/
def quantityPoint : Nat → List Dimension → Reading Binary
  | 0, _ => failHere .tooDeep
  | _ + 1, [] => failHere .invalidValue
  | n + 1, d :: more => do
    let found ← attempt do
      let (y, x) ← quantityPair n d
      resultOf (pointAngle? y x)
    match found with
    | some x => return x
    | none => quantityPoint n more

/-- What is in the brackets of a mathematical function. -/
def quantityArguments : Nat → Dimension → Text → Reading Quantity
  | 0, _, _ => failHere .tooDeep
  | n + 1, d, name => do
    if name = ("calc" : Text) then
      match ← quantitySum n d with
      | .amount a => return .amount a
      | .number x => return .number x
      | q => return .call "calc" [q]
    else if name = ("min" : Text) then
      return extremum name .lt (← commaSeparated (quantitySum n d))
    else if name = ("max" : Text) then
      return extremum name .gt (← commaSeparated (quantitySum n d))
    else if name = ("clamp" : Text) then
      let low ← quantitySum n d
      comma
      let q ← quantitySum n d
      comma
      return clamped low q (← quantitySum n d)
    else if name = ("round" : Text) then
      let way := (← attempt rounding).getD .nearest
      let (q, step) ← quantityPair n d
      return (applyBoth? (roundTo way) q step).getD (.round way q step)
    else if name = ("pow" : Text) then
      let x ← quantityNumber n
      comma
      return .number (Binary.pow .single x (← quantityNumber n))
    else if name = ("log" : Text) then
      let x ← quantityNumber n
      match ← attempt comma with
      | some _ =>
        return .number (div (Binary.log .single x) (Binary.log .single (← quantityNumber n)))
      | none => return .number (Binary.log .single x)
    else if name = ("hypot" : Text) then
      let qs ← commaSeparated (quantitySum n d)
      return (hypotenuse? qs).getD (.call name qs)
    else if name = ("abs" : Text) then
      let q ← quantitySum n d
      return (applyOne? Binary.abs q).getD (.call name [q])
    else if name = ("sign" : Text) then
      let q ← quantitySum n d
      return (signOf? q).getD (.call name [q])
    else if name = ("atan2" : Text) then
      angleOf d (← quantityPoint n pointDimensions)
    else
      match binaryFunction? name, numericFunction? name, circularFunction? name,
          arcFunction? name with
      | some op, _, _, _ => do
        let (p, q) ← quantityPair n d
        return (applyBoth? op p q).getD (.call name [p, q])
      | none, some f, _, _ => return .number (f (← quantityNumber n))
      | none, none, some f, _ => resultOf (circular f (← quantitySum n .angle))
      | none, none, none, some f =>
        match ← quantitySum n .angle with
        | .number x => angleOf d (f .single x)
        | _ => failHere .invalidValue
      | none, none, none, none => failHere .invalidValue

/-- A mathematical function. -/
def quantityCall : Nat → Dimension → Reading Quantity
  | 0, _ => failHere .tooDeep
  | n + 1, d => do
    let (name, c) ← function
    inside c (quantityArguments n d (Text.lowerAscii name))

end

mutual

/-- How many components there are, those in brackets included. -/
def sizeOf : Component → Nat
  | .token _ _ _ => 1
  | .block _ _ _ _ inside _ _ => sizesOf inside + 2

/-- How many components there are in a list. -/
def sizesOf : List Component → Nat
  | [] => 1
  | c :: r => sizeOf c + sizesOf r

end

/-- A reading that needs a bound, with one that is always enough. -/
def bounded {α : Type} (r : Nat → Reading α) : Reading α := fun s =>
  r (8 * sizesOf s.rest + 16) s

/-- **A quantity.** -/
def quantity (d : Dimension) : Reading Quantity := do
  match ← attempt (bounded fun n => quantityCall n d) with
  | some q => return q
  | none => return .amount (← plainAmount d)

/-- A quantity that comes to one amount. -/
def simpleQuantity (d : Dimension) : Reading Amount := do
  match ← quantity d with
  | .amount a => return a
  | _ => failHere .invalidValue

/-- **A number**, which may be an expression. -/
def number : Reading Binary := do
  match ← attempt (bounded fun n => quantityCall n Dimension.number) with
  | some (.number x) => return x
  | some _ => failHere .invalidValue
  | none => plainNumber

/-- A number, or a percentage as its hundredth. -/
def numberOrPercentage : Reading Binary :=
  orTry number do return (← simpleQuantity Dimension.percentage).value

/-- A length or a percentage, written. -/
def lengthPercentage : Reading Text := do return (← quantity Dimension.lengthPercentage).write

/-- A length, written. -/
def length : Reading Text := do return (← quantity Dimension.length).write

/-- A duration, written. -/
def time : Reading Text := do return (← simpleQuantity Dimension.time).write false

/-- A resolution, written. -/
def resolution : Reading Text := do
  return (← plainAmount { units := resolutionUnits }).write false

/-- An angle, written; a nought may do without its unit. -/
def angle (plainZero : Bool) : Reading Text := do
  match ← attempt (simpleQuantity Dimension.angle) with
  | some a => return if plainZero && a.value.isZero then ['0'] else a.write false
  | none =>
    let x ← plainNumber
    if plainZero && x.isZero then return ['0'] else failHere .invalidValue

end Reading

end ModuleHooks.Css
