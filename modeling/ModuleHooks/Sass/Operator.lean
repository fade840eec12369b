import ModuleHooks.Sass.Value
/-!
# Operators on values

Numbers are computed with. Other values are written one after the other, with the
operator between them where it is not `+`; what cannot be written at all, or would be
read as something else, is refused.
-/

namespace ModuleHooks.Sass

/-- What an operator comes to. -/
abbrev Operated := Except Fault Value

namespace Operator

/-- The operator means nothing between the two values. -/
def undefinedFor {α : Type} (op : BinaryOp) (a b : Value) (span : Span) : Except Fault α :=
  .error (.misplaced ("Undefined operation \"".toList ++ a.inspect ++ ' ' :: op.write
    ++ ' ' :: b.inspect ++ "\".".toList) span)

/-- The value cannot be a part of a style sheet. -/
def invalid {α : Type} (v : Value) (span : Span) : Except Fault α :=
  .error (.misplaced (v.inspect ++ " isn't a valid CSS value.".toList) span)

/-- Two numbers cannot be brought to one unit. -/
def incompatible {α : Type} (m n : Number) (span : Span) : Except Fault α :=
  .error (.misplaced ("Incompatible units ".toList ++ n.units.write ++ " and ".toList
    ++ m.units.write ++ ['.']) span)

/-- An operation on two numbers of one unit. -/
def onComparable (f : Number → Number → Number) (m n : Number) (span : Span) : Operated :=
  if Units.comparable m.units n.units then .ok (.number (f m n)) else incompatible m n span

/-- Whether a value can only be told in a message. -/
def isOpaque : Value → Bool
  | .map _ => true
  | .function _ => true
  | _ => false

/-- Two values with a text between them. -/
def written (a b : Value) (between : Text) (span : Span) : Operated := do
  return .word ((← a.css span) ++ between ++ (← b.css span))

/-- A text as it stands, in quotation marks if it has them: nothing in it is escaped. -/
def inMarks (t : Text) (isQuoted : Bool) : Text := if isQuoted then '"' :: t ++ ['"'] else t

/-- **The sum**: of numbers, or the two values as one text. -/
def sum (a b : Value) (span : Span) : Operated :=
  match a, b with
  | .calculation _, .text t q => do return .text ((← a.css span) ++ t) q
  | .calculation _, _ => undefinedFor .plus a b span
  | .map _, _ => invalid a span
  | .function _, _ => invalid a span
  | .text s q, .text t _ => .ok (.text (s ++ t) q)
  | .text s q, _ => do return .text (s ++ (← b.css span)) q
  | .null, .null => .ok .null
  | .null, _ => do return .word (← b.css span)
  | .number m, .number n => onComparable Number.add m n span
  | .number _, .calculation _ => undefinedFor .plus a b span
  | .number _, .color _ => undefinedFor .plus a b span
  | .number m, .text t q => .ok (.text (m.write ++ t) q)
  | .number m, _ => if isOpaque b then invalid b span else do return .word (m.write ++ (← b.css span))
  | .color _, .text .. => written a b [] span
  | .color _, .null => written a b [] span
  | .color _, .list .. => written a b [] span
  | .color _, .arguments .. => written a b [] span
  | .color _, _ => undefinedFor .plus a b span
  | _, .text t q => do return .text ((← a.css span) ++ t) q
  | _, _ => written a b [] span

/-- Two values with an operator between them that is not computed. -/
def joined (op : BinaryOp) (a b : Value) (span : Span) : Operated :=
  match a, b with
  | .map _, _ => invalid a span
  | .function _, _ => invalid a span
  | .number m, _ =>
    if isOpaque b then invalid b span
    else do return .word (m.write ++ op.write ++ (← b.css span))
  | .color _, .color _ => undefinedFor op a b span
  | .color _, .number _ => undefinedFor op a b span
  | .color _, _ => written a b op.write span
  | .null, _ => written a b op.write span
  | _, .text t q => do return .word ((← a.css span) ++ op.write ++ inMarks t q)
  | _, _ => written a b op.write span

/-- The difference. -/
def difference (a b : Value) (span : Span) : Operated :=
  match a, b with
  | .number m, .number n => onComparable Number.sub m n span
  | .calculation _, .text t q => do return .text ((← a.css span) ++ '-' :: t) q
  | .calculation _, _ => undefinedFor .minus a b span
  | .number _, .calculation _ => undefinedFor .minus a b span
  | .number _, .color _ => undefinedFor .minus a b span
  | .text .., _ => written a b ['-'] span
  | _, _ => joined .minus a b span

/-- The quotient. -/
def quotient (a b : Value) (span : Span) : Operated :=
  match a, b with
  | .number m, .number n => .ok (.number (m.div n))
  | .text s q, .text .. => joined .divide (.word (inMarks s q)) b span
  | .text s q, _ => written (.word (inMarks s q)) b ['/'] span
  | _, _ => joined .divide a b span

/-- The product of two numbers. -/
def product (a b : Value) (span : Span) : Operated :=
  match a, b with
  | .number m, .number n => .ok (.number (m.mul n))
  | _, _ => undefinedFor .times a b span

/-- The remainder of two numbers; a complaint about their units names the first one
first. -/
def remainder (a b : Value) (span : Span) : Operated :=
  match a, b with
  | .number m, .number n =>
    if Units.comparable m.units n.units then .ok (.number (Number.rem m n))
    else incompatible n m span
  | _, _ => undefinedFor .modulo a b span

/-- Whether two numbers stand in an order. -/
def ordered (op : BinaryOp) (holds : Ordering → Bool) (a b : Value) (span : Span) : Operated :=
  match a, b with
  | .number m, .number n =>
    if Units.comparable m.units n.units then .ok (.truth ((m.order? n).any holds))
    else incompatible m n span
  | _, _ => undefinedFor op a b span

/-- **An operator on two values** that are both needed. -/
def apply (op : BinaryOp) (a b : Value) (span : Span) : Operated :=
  match op with
  | .assign => written a b ['='] span
  | .or => .ok (if a.isTruthy then a else b)
  | .and => .ok (if a.isTruthy then b else a)
  | .equal => .ok (.truth (a.same b))
  | .notEqual => .ok (.truth (!a.same b))
  | .greater => ordered op (· == .gt) a b span
  | .greaterEqual => ordered op (· != .lt) a b span
  | .less => ordered op (· == .lt) a b span
  | .lessEqual => ordered op (· != .gt) a b span
  | .plus => sum a b span
  | .minus => difference a b span
  | .times => product a b span
  | .divide => quotient a b span
  | .modulo => remainder a b span

/-- A quotient that may be written with the slash again, if it is one of numbers. -/
def keptQuotient (a b : Value) (span : Span) : Operated :=
  match a, b with
  | .number m, .number n => .ok (.number ((m.div n).withQuotient m n))
  | _, _ => quotient a b span

/-- **An operator before a value.** -/
def applyUnary (op : UnaryOp) (v : Value) (span : Span) : Operated :=
  let before (sign : Char) : Operated :=
    match v with
    | .calculation _ =>
      .error (.misplaced ("Undefined operation \"".toList ++ sign :: v.inspect
        ++ "\".".toList) span)
    | _ => do return .word (sign :: (← v.css span))
  match op with
  | .not => .ok (.truth !v.isTruthy)
  | .slash => do return .word ('/' :: (← v.css span))
  | .plus =>
    match v with
    | .number _ => .ok v
    | _ => before '+'
  | .minus =>
    match v with
    | .number n => .ok (.number n.neg)
    | _ => before '-'

end Operator

end ModuleHooks.Sass
