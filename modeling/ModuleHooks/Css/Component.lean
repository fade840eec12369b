import ModuleHooks.Css.Lexer
/-!
# Components

Tokens in their brackets. A bracket is closed by the next closing bracket of its own
kind that is not inside another one; closing brackets of other kinds stand for
themselves, and what is still open at the end is closed there.

A `Stream` is what is left of a list of components, with the place where the list ends.
Reading from a stream is reading from a list; the places make messages possible.
-/

namespace ModuleHooks.Css

/-- **A component**: a token, or a bracket with what is in it. -/
inductive Component where
  | token (place : Place) (written : Text) (t : Token)
  /-- A bracket: where it begins, its opening token and what is written of it; where its
  inside begins; the inside; where that ends; what closes it. -/
  | block (place : Place) (written : Text) (t : Token) (inner : Place)
      (inside : List Component) (finish : Place) (closer : Text)
  deriving Repr

namespace Component

/-- Where a component begins. -/
def place : Component → Place
  | .token p _ _ => p
  | .block p _ _ _ _ _ _ => p

/-- The token that a component begins with. -/
def head : Component → Token
  | .token _ _ t => t
  | .block _ _ t _ _ _ _ => t

/-- Whether a component only separates. -/
def isBlank : Component → Bool
  | .token _ _ t => t.isBlank
  | .block _ _ _ _ _ _ _ => false

/-- Whether a component is white space. -/
def isSpace : Component → Bool
  | .token _ _ (.whitespace _) => true
  | _ => false

/-- The bracket that a token opens. -/
def bracketOf : Token → Option Bracket
  | .function _ => some .round
  | .opening b => some b
  | _ => none

mutual

/-- The text that a component was read from. -/
def source : Component → Text
  | .token _ w _ => w
  | .block _ w _ _ inside _ closer => w ++ sources inside ++ closer

/-- The text that components were read from. -/
def sources : List Component → Text
  | [] => []
  | c :: r => source c ++ sources r

end

/-- A bracket that is still open. -/
structure Open where
  place : Place
  written : Text
  token : Token
  bracket : Bracket
  inner : Place
  /-- What is in it so far, last first. -/
  inside : List Component

/-- The components so far, last first, after one more: into the innermost open bracket,
or beside all. -/
def add (c : Component) (stack : List Open) (top : List Component) :
    List Open × List Component :=
  match stack with
  | [] => ([], c :: top)
  | o :: r => ({ o with inside := c :: o.inside } :: r, top)

/-- Closes the innermost bracket. -/
def closeOne (o : Open) (finish : Place) (closer : Text) : Component :=
  .block o.place o.written o.token o.inner o.inside.reverse finish closer

/-- The components beside all brackets when the innermost one is closed at the end, and
with it all around it. -/
def closeInto (finish : Place) (pending : Component) :
    List Open → List Component → List Component
  | [], top => (pending :: top).reverse
  | o :: r, top =>
    closeInto finish (closeOne { o with inside := pending :: o.inside } finish []) r top

/-- Closes all brackets at the end. -/
def closeAll (finish : Place) : List Open → List Component → List Component
  | [], top => top.reverse
  | o :: r, top => closeInto finish (closeOne o finish []) r top

/-- Puts tokens into their brackets. -/
def nest (finish : Place) : List Lexer.Lexeme → List Open → List Component → List Component
  | [], stack, top => closeAll finish stack top
  | x :: rest, stack, top =>
    match bracketOf x.token with
    | some b =>
      nest finish rest
        (⟨x.place, x.written, x.token, b, Lexer.advance x.place x.written, []⟩ :: stack) top
    | none =>
      match x.token, stack with
      | .closing b, o :: r =>
        if o.bracket = b then
          let (stack, top) := add (closeOne o x.place x.written) r top
          nest finish rest stack top
        else
          let (stack, top) := add (.token x.place x.written x.token) stack top
          nest finish rest stack top
      | _, _ =>
        let (stack, top) := add (.token x.place x.written x.token) stack top
        nest finish rest stack top

end Component

/-- **What is left to read**: components, and the place where they end. -/
structure Stream where
  rest : List Component
  finish : Place
  deriving Repr

/-- The components of a stylesheet. -/
def Stream.ofText (t : Text) : Stream :=
  let (tokens, finish) := Lexer.tokens t
  ⟨Component.nest finish tokens [] [], finish⟩

namespace Stream

/-- Where the stream stands. -/
def here (s : Stream) : Place :=
  match s.rest with
  | c :: _ => c.place
  | [] => s.finish

/-- The stream without white space and comments at the front. -/
def skipBlanks (s : Stream) : Stream := { s with rest := s.rest.dropWhile Component.isBlank }

/-- The stream without comments at the front. -/
def skipComments (s : Stream) : Stream :=
  { s with
    rest := s.rest.dropWhile fun
      | .token _ _ (.comment _) => true
      | _ => false }

/-- Whether nothing but blanks is left. -/
def isDone (s : Stream) : Bool := s.rest.all Component.isBlank

/-- **The next component** that is not blank, and what follows it. -/
def next? (s : Stream) : Option (Component × Stream) :=
  match s.skipBlanks.rest with
  | c :: r => some (c, ⟨r, s.finish⟩)
  | [] => none

/-- The next component, white space included, and what follows it. -/
def nextSpaced? (s : Stream) : Option (Component × Stream) :=
  match s.skipComments.rest with
  | c :: r => some (c, ⟨r, s.finish⟩)
  | [] => none

/-- Where a reader stands that has taken the head of a component. -/
def after (c : Component) (s : Stream) : Place :=
  match c with
  | .token _ _ _ => s.here
  | .block _ _ _ inner _ _ _ => inner

/-- The inside of a bracket. -/
def inside : Component → Stream
  | .token p _ _ => ⟨[], p⟩
  | .block _ _ _ _ inside finish _ => ⟨inside, finish⟩

/-- The stream up to the first component that satisfies a test, and from there on. -/
def splitAt (stop : Component → Bool) (s : Stream) : Stream × Stream :=
  let back : Stream := ⟨s.rest.dropWhile (!stop ·), s.finish⟩
  (⟨s.rest.takeWhile (!stop ·), back.here⟩, back)

/-- Whether a component is a given delimiter. -/
def isDelim (d : Char) (c : Component) : Bool :=
  match c.head with
  | .delim e => d == e
  | _ => false

/-- Whether a component is a comma. -/
def isComma (c : Component) : Bool := c.head == .comma

/-- Whether a component is a semicolon. -/
def isSemicolon (c : Component) : Bool := c.head == .semicolon

/-- Whether a component is a curly bracket. -/
def isCurly (c : Component) : Bool := c.head == .opening .curly

/-- The name of an identifier. -/
def identOf? (c : Component) : Option Text :=
  match c.head with
  | .ident name => some name
  | _ => none

end Stream

end ModuleHooks.Css
