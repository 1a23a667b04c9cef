import Reckoner.Expr.Basic
import Reckoner.Token.Scan

/-!
# Reading tokens as terms

A line holds any number of terms, one behind the other.  A term is a sum of products of signed
numbers, read from left to right:

    term    = product { ("+" | "-") product }
    product = signed { ("*" | "/") signed }
    signed  = [ "-" ] number

A term ends where neither operator follows.  Each reader takes the tokens that are left and returns
its tree with those that it leaves, which are fewer (`length_of_readTerm`).
-/

namespace Reckoner.Expr

open Token (Kind)

/-- The operation that joins products to a sum in `readProducts`. -/
def sumOp? : Kind → Option BinaryOp
  | .plus => some .add
  | .minus => some .sub
  | .number | .star | .slash => none

/-- The operation that joins signed numbers to a product in `readFactors`. -/
def productOp? : Kind → Option BinaryOp
  | .star => some .mul
  | .slash => some .div
  | .number | .plus | .minus => none

/-- What a reader such as `readTerm` returns: a tree and the tokens behind it. -/
abbrev Read := Except ParseError (Expr × List Token)

/-! ## Readers

`stop` is the position just past the last token of the line, for errors at the end. -/

/-- Reads a number. -/
def readNumber (stop : Int) : List Token → Read
  | [] => .error (.unexpectedEnd "number" (some stop))
  | t :: rest =>
    match t.kind, t.value with
    | .number, some v => .ok (literal v, rest)
    | .number, none => .error (.missingValue t.text t.pos)
    | _, _ => .error (.unexpectedToken t.text t.pos "number")

/-- Reads a number with at most one minus sign in front; behind the sign `readNumber` has to find a
number. -/
def readSigned (stop : Int) : List Token → Read
  | [] => readNumber stop []
  | t :: rest =>
    match t.kind with
    | .minus => do
      let (e, rest) ← readNumber stop rest
      return (neg e, rest)
    | _ => readNumber stop (t :: rest)

/-- `readNumber` takes a token. -/
theorem length_of_readNumber {stop : Int} {tokens : List Token} {e : Expr} {rest : List Token}
    (h : readNumber stop tokens = .ok (e, rest)) : rest.length < tokens.length := by
  cases tokens with
  | nil => simp [readNumber] at h
  | cons t ts =>
    simp only [readNumber] at h
    split at h <;> simp_all

/-- `readSigned` takes a token at least, with or without the sign. -/
theorem length_of_readSigned {stop : Int} {tokens : List Token} {e : Expr} {rest : List Token}
    (h : readSigned stop tokens = .ok (e, rest)) : rest.length < tokens.length := by
  cases tokens with
  | nil => exact length_of_readNumber h
  | cons t ts =>
    simp only [readSigned] at h
    split at h
    · cases hn : readNumber stop ts with
      | error err => simp [hn, bind, Except.bind] at h
      | ok r =>
        obtain ⟨e', rest'⟩ := r
        simp only [hn, bind, Except.bind, pure, Except.pure, Except.ok.injEq, Prod.mk.injEq] at h
        obtain ⟨_, rfl⟩ := h
        have := length_of_readNumber hn
        simp only [List.length_cons]
        omega
    · exact length_of_readNumber h

/-- Reads on behind `left`, a product so far, while `productOp?` knows the next token. -/
def readFactors (stop : Int) (left : Expr) (tokens : List Token) : Read :=
  match tokens with
  | [] => .ok (left, [])
  | t :: rest =>
    match productOp? t.kind with
    | none => .ok (left, t :: rest)
    | some op =>
      match _h : readSigned stop rest with
      | .error err => .error err
      | .ok (right, rest') => readFactors stop (binary op left right) rest'
termination_by tokens.length
decreasing_by
  have := length_of_readSigned _h
  simp only [List.length_cons]
  omega

/-- Reads a product: `readSigned`, and `readFactors` behind it. -/
def readProduct (stop : Int) (tokens : List Token) : Read := do
  let (left, rest) ← readSigned stop tokens
  readFactors stop left rest

/-- `readFactors` puts no tokens back; it may take none. -/
theorem length_of_readFactors {stop : Int} {left : Expr} {tokens : List Token} {e : Expr}
    {rest : List Token} (h : readFactors stop left tokens = .ok (e, rest)) :
    rest.length ≤ tokens.length := by
  fun_induction readFactors stop left tokens with
  | case1 => simp_all
  | case2 => simp_all
  | case3 => simp at h
  | case4 left t ts op hop right rest' hr ih =>
    have := ih h
    have := length_of_readSigned hr
    simp only [List.length_cons]
    omega

/-- `readProduct` takes a token at least, its first signed number. -/
theorem length_of_readProduct {stop : Int} {tokens : List Token} {e : Expr} {rest : List Token}
    (h : readProduct stop tokens = .ok (e, rest)) : rest.length < tokens.length := by
  unfold readProduct at h
  cases hs : readSigned stop tokens with
  | error err => simp [hs, bind, Except.bind] at h
  | ok r =>
    obtain ⟨left, rest'⟩ := r
    simp only [hs, bind, Except.bind] at h
    have := length_of_readSigned hs
    have := length_of_readFactors h
    omega

/-- Reads on behind `left`, a sum so far, while `sumOp?` knows the next token. -/
def readProducts (stop : Int) (left : Expr) (tokens : List Token) : Read :=
  match tokens with
  | [] => .ok (left, [])
  | t :: rest =>
    match sumOp? t.kind with
    | none => .ok (left, t :: rest)
    | some op =>
      match _h : readProduct stop rest with
      | .error err => .error err
      | .ok (right, rest') => readProducts stop (binary op left right) rest'
termination_by tokens.length
decreasing_by
  have := length_of_readProduct _h
  simp only [List.length_cons]
  omega

/-- Reads a term: `readProduct`, and `readProducts` behind it. -/
def readTerm (stop : Int) (tokens : List Token) : Read := do
  let (left, rest) ← readProduct stop tokens
  readProducts stop left rest

/-- `readProducts` puts no tokens back; it may take none. -/
theorem length_of_readProducts {stop : Int} {left : Expr} {tokens : List Token} {e : Expr}
    {rest : List Token} (h : readProducts stop left tokens = .ok (e, rest)) :
    rest.length ≤ tokens.length := by
  fun_induction readProducts stop left tokens with
  | case1 => simp_all
  | case2 => simp_all
  | case3 => simp at h
  | case4 left t ts op hop right rest' hr ih =>
    have := ih h
    have := length_of_readProduct hr
    simp only [List.length_cons]
    omega

/-- `readTerm` takes a token at least, so that `readTerms` comes to an end. -/
theorem length_of_readTerm {stop : Int} {tokens : List Token} {e : Expr} {rest : List Token}
    (h : readTerm stop tokens = .ok (e, rest)) : rest.length < tokens.length := by
  unfold readTerm at h
  cases hp : readProduct stop tokens with
  | error err => simp [hp, bind, Except.bind] at h
  | ok r =>
    obtain ⟨left, rest'⟩ := r
    simp only [hp, bind, Except.bind] at h
    have := length_of_readProduct hp
    have := length_of_readProducts h
    omega

/-! ## Whole lines -/

/-- The terms of a line: those that are complete, and what ended the reading before the end. -/
structure Terms where
  /-- The complete terms, in order. -/
  complete : List Expr
  /-- Why the next term could not be read, if there was one. -/
  failure : Option ParseError

/-- Whether a term can begin with a token of this kind. -/
def startsTerm : Kind → Bool
  | .number | .minus => true
  | .plus | .star | .slash => false

/-- Reads terms with `readTerm` up to the end, or to the first error; what `startsTerm` refuses
begins no term. -/
def readTerms (stop : Int) (tokens : List Token) : Terms :=
  match tokens with
  | [] => ⟨[], none⟩
  | t :: rest =>
    if startsTerm t.kind then
      match _h : readTerm stop (t :: rest) with
      | .error err => ⟨[], some err⟩
      | .ok (e, rest') =>
        -- What is complete stays, whatever comes of the rest.
        let terms := readTerms stop rest'
        { terms with complete := e :: terms.complete }
    else ⟨[], some (.unexpectedToken t.text t.pos "start of expression")⟩
termination_by tokens.length
decreasing_by exact length_of_readTerm _h

/-- The position just past the last token, `Token.stop` of it; `0` if there is none. -/
def stopOf (tokens : List Token) : Int := (tokens.getLast?.map Token.stop).getD 0

/-- The terms of a list of tokens: `readTerms` with the position at which the list stops. -/
def termsOf (tokens : List Token) : Terms := readTerms (stopOf tokens) tokens

/-- All terms of a list of tokens, or what is wrong with the first that cannot be read: `termsOf`,
where a failure hides what is complete. -/
def parseAll (tokens : List Token) : Except ParseError (List Expr) :=
  let terms := termsOf tokens
  match terms.failure with
  | none => .ok terms.complete
  | some err => .error err

/-- The only term of a list of tokens: `readTerm`, which may leave none of them. -/
def parseOne (tokens : List Token) : Except ParseError Expr :=
  match tokens with
  | [] => .error (.unexpectedEnd "expression" (some 0))
  | _ =>
    match readTerm (stopOf tokens) tokens with
    | .error err => .error err
    | .ok (e, []) => .ok e
    -- A second term would start here.
    | .ok (_, t :: _) => .error (.unexpectedToken t.text t.pos "end of input")

end Reckoner.Expr
