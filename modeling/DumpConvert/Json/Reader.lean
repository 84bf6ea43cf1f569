import DumpConvert.Dictionary
import DumpConvert.Json.Token

/-!
# Reading JSON into typed values

A reader knows which shape it expects.  A value of another shape is `mistyped`, but only
after its first token has been read: a literal name, a number or a string that is itself
faulty has the fault of that token.

A record is read from an object, whose unknown keys are passed over and whose known keys
must not repeat, or from an array that holds the fields in their order.

A value that nobody asks for must still be JSON.  It is passed over with a stack of the
arrays and objects that are open, so that nesting may be as deep as the text is long.
-/

namespace DumpConvert.Json

/-! ## Passing over a value -/

inductive Frame where
  | array
  | object
deriving Repr, DecidableEq

def Frame.close : Frame → Char
  | .array => ']'
  | .object => '}'

inductive Expecting where
  /-- A value. -/
  | value
  /-- The first item of the innermost frame, or its end. -/
  | first
  /-- A comma and another item of the innermost frame, or its end. -/
  | next
deriving Repr, DecidableEq

def skipKey (t : Text) : Except Fault Text :=
  match skipSpace t with
  | '"' :: rest => do
      let after ← skipStringBody rest
      expectColon after
  | other => .error (unexpected other)

/-- Pass over the item that begins here as far as a value must follow. -/
def skipToValue (frame : Frame) (t : Text) : Except Fault Text :=
  match frame with
  | .array => .ok t
  | .object => skipKey t

def skipScalar (c : Char) (rest : Text) : Except Fault Text :=
  if c = '"' then skipStringBody rest
  else if c = '-' ∨ c.isDigit then skipNumber (c :: rest)
  else
    match nameOf? c with
    | some name => expectName name (c :: rest)
    | none => .error .malformed

/--
Pass over values until no frame is open; `fuel` bounds the number of steps.

Two steps suffice for every character, as `skipValue` provides.
-/
def skipFrom : Nat → List Frame → Expecting → Text → Except Fault Text
  | 0, _, _, _ => .error .malformed
  | fuel + 1, frames, expecting, t =>
      match expecting, frames, skipSpace t with
      | .value, _, [] => .error .ended
      | .value, frames, c :: rest =>
          if c = '[' then skipFrom fuel (.array :: frames) .first rest
          else if c = '{' then skipFrom fuel (.object :: frames) .first rest
          else do
            let after ← skipScalar c rest
            skipFrom fuel frames .next after
      | .next, [], _ => .ok t
      | .first, [], _ => .ok t
      | _, _ :: _, [] => .error .ended
      | .first, frame :: outer, c :: rest =>
          if c = frame.close then skipFrom fuel outer .next rest
          else do
            let after ← skipToValue frame (c :: rest)
            skipFrom fuel (frame :: outer) .value after
      | .next, frame :: outer, c :: rest =>
          if c = frame.close then skipFrom fuel outer .next rest
          else if c = ',' then do
            let after ← skipToValue frame rest
            skipFrom fuel (frame :: outer) .value after
          else .error .malformed

def skipValue (t : Text) : Except Fault Text :=
  skipFrom (2 * t.length + 2) [] .value t

/-! ## Typed values -/

def faultOfOther : Text → Fault
  | [] => .ended
  | c :: rest =>
      let outcome : Except Fault Unit :=
        if c = '[' ∨ c = '{' then .ok ()
        else if c = '"' then (stringBody rest).map (fun _ => ())
        else if c = '-' ∨ c.isDigit then (readNumber (c :: rest)).map (fun _ => ())
        else
          match nameOf? c with
          | some name => (expectName name (c :: rest)).map (fun _ => ())
          | none => .error .malformed
      match outcome with
      | .error fault => fault
      | .ok _ => .mistyped

/-! ## Scalars -/

def text : Reader Text := fun t =>
  match skipSpace t with
  | '"' :: rest => stringBody rest
  | other => .error (faultOfOther other)

/-- Read a natural number below `2 ^ 64`. -/
def natural : Reader Nat := fun t =>
  match skipSpace t with
  | [] => .error .ended
  | c :: rest =>
      if c = '-' ∨ c.isDigit then
        match readNumber (c :: rest) with
        | .ok (.natural value, after) => .ok (value, after)
        | .ok (.other, _) => .error .mistyped
        | .error fault => .error fault
      else
        .error (faultOfOther (c :: rest))

/-! ## Arrays and objects -/

/-- What stands where an item may stand: the item itself, or the end of the items. -/
inductive Item where
  | item (start : Text)
  | close (rest : Text)
deriving Repr, DecidableEq

/-- Pass over the comma before an item of an array; `first` tells that no item went before. -/
def nextElement (first : Bool) (t : Text) : Except Fault Item :=
  match skipSpace t with
  | [] => .error .ended
  | c :: rest =>
      if c = ']' then .ok (.close rest)
      else if first then .ok (.item (c :: rest))
      else if c = ',' then
        match skipSpace rest with
        | [] => .error .ended
        | d :: after => if d = ']' then .error .malformed else .ok (.item (d :: after))
      else .error .malformed

def nextKey (first : Bool) (t : Text) : Except Fault Item :=
  match skipSpace t with
  | [] => .error .ended
  | c :: rest =>
      if c = '}' then .ok (.close rest)
      else if first then
        if c = '"' then .ok (.item rest) else .error .malformed
      else if c = ',' then
        match skipSpace rest with
        | [] => .error .ended
        | d :: after => if d = '"' then .ok (.item after) else .error .malformed
      else .error .malformed

def elementsFrom {α : Type} (element : Reader α) : Nat → Bool → List α → Reader (List α)
  | 0, _, _, _ => .error .malformed
  | fuel + 1, first, done, t => do
      match ← nextElement first t with
      | .close rest => .ok (done.reverse, rest)
      | .item start =>
          let (value, rest) ← element start
          elementsFrom element fuel false (value :: done) rest

def listOf {α : Type} (element : Reader α) : Reader (List α) := fun t =>
  match skipSpace t with
  | '[' :: rest => elementsFrom element (rest.length + 1) true [] rest
  | other => .error (faultOfOther other)

def entriesFrom {α : Type} (value : Reader α) :
    Nat → Bool → Dictionary α → Reader (Dictionary α)
  | 0, _, _, _ => .error .malformed
  | fuel + 1, first, done, t => do
      match ← nextKey first t with
      | .close rest => .ok (done, rest)
      | .item start =>
          let (key, afterKey) ← stringBody start
          let afterColon ← expectColon afterKey
          let (found, rest) ← value afterColon
          entriesFrom value fuel false (done.insert key found) rest

/-- Read an object as a dictionary; the last value of a repeated key is kept. -/
def dictionaryOf {α : Type} (value : Reader α) : Reader (Dictionary α) := fun t =>
  match skipSpace t with
  | '{' :: rest => entriesFrom value (rest.length + 1) true .empty rest
  | other => .error (faultOfOther other)

/-! ## Records -/

/-- A field of a record: its key, and how its value changes the record read so far. -/
structure Field (σ : Type) where
  key : Text
  read : σ → Reader σ

def Field.of {σ α : Type} (key : Text) (value : Reader α) (put : σ → α → σ) : Field σ :=
  { key := key
    read := fun state t => (value t).map (fun read => (put state read.1, read.2)) }

/-- How a record is read: what it is before any field, its fields, and what it is at the end. -/
structure Shape (σ α : Type) where
  start : σ
  fields : List (Field σ)
  finish : σ → Option α

/-- Read the fields of an object; `seen` are the known keys read before. -/
def membersFrom {σ : Type} (fields : List (Field σ)) :
    Nat → Bool → List Text → σ → Reader σ
  | 0, _, _, _, _ => .error .malformed
  | fuel + 1, first, seen, state, t => do
      match ← nextKey first t with
      | .close rest => .ok (state, rest)
      | .item start =>
          let (key, afterKey) ← stringBody start
          match fields.find? (fun field => field.key == key) with
          | none =>
              let afterColon ← expectColon afterKey
              let rest ← skipValue afterColon
              membersFrom fields fuel false seen state rest
          | some field =>
              if seen.contains key then .error .mistyped
              else
                let afterColon ← expectColon afterKey
                let (grown, rest) ← field.read state afterColon
                membersFrom fields fuel false (key :: seen) grown rest

/-- Read the fields of an array in their order; fields at the end may be missing. -/
def fieldsInOrder {σ : Type} : List (Field σ) → Bool → σ → Reader σ
  | [], _, state, t =>
      match skipSpace t with
      | ']' :: rest => .ok (state, rest)
      | other => .error (unexpected other)
  | field :: more, first, state, t => do
      match ← nextElement first t with
      | .close rest => .ok (state, rest)
      | .item start =>
          let (grown, rest) ← field.read state start
          fieldsInOrder more false grown rest

def Shape.complete {σ α : Type} (shape : Shape σ α) (read : σ × Text) :
    Except Fault (α × Text) :=
  match shape.finish read.1 with
  | some value => .ok (value, read.2)
  | none => .error .mistyped

def record {σ α : Type} (shape : Shape σ α) : Reader α := fun t =>
  match skipSpace t with
  | '{' :: rest => do
      let read ← membersFrom shape.fields (rest.length + 1) true [] shape.start rest
      shape.complete read
  | '[' :: rest => do
      let read ← fieldsInOrder shape.fields true shape.start rest
      shape.complete read
  | other => .error (faultOfOther other)

/-! ## Whole texts -/

def readAll {α : Type} (value : Reader α) (t : Text) : Except Fault α := do
  let (read, rest) ← value t
  if (skipSpace rest).isEmpty then .ok read else .error .malformed

end DumpConvert.Json
