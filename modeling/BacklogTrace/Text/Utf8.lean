import BacklogTrace.Text.Basic

/-!
Contract: UTF-8 between bytes and text, for bytes of any kind.

Decoding is a machine that reads one byte at a time: `Utf8.step` gives the
characters that a byte completes and where the machine then stands. A sequence
that cannot be completed gives one replacement character, and the byte that
broke it is read afresh, so one replacement stands for each maximal invalid
part. `Utf8.decode` never fails, and `decode_encode` says that it undoes writing.
`Utf8.decodeExact?` accepts exactly the bytes that some text is written as,
because those alone survive decoding and writing (`decodeExact?_eq_some_iff`).

Owns: `Bytes`, `Utf8.encode`, `Utf8.decode`, `Utf8.decodeExact?`,
`Utf8.byteLines`.

Does not own: how file names are shown, which is the decoding of their bytes.
-/

namespace BacklogTrace

/-- The content of a file, or the spelling of a path. -/
abbrev Bytes := List UInt8

namespace Utf8

/-- What stands for a maximal invalid part. -/
def replacement : Char := '\ufffd'

/-- Which continuation bytes may come next. The second byte of some characters
is restricted, so that nothing is written longer than it needs to be and no
surrogate or number beyond the last plane is written at all. -/
inductive Window where
  | full
  | fromA0
  | upTo9F
  | from90
  | upTo8F
deriving DecidableEq, Repr

def Window.least : Window → Nat
  | .full | .upTo9F | .upTo8F => 0x80
  | .fromA0 => 0xa0
  | .from90 => 0x90

def Window.greatest : Window → Nat
  | .full | .fromA0 | .from90 => 0xbf
  | .upTo9F => 0x9f
  | .upTo8F => 0x8f

def Window.admits (window : Window) (number : Nat) : Bool :=
  decide (window.least ≤ number) && decide (number ≤ window.greatest)

/-- Where decoding stands between two bytes. -/
inductive Progress where
  /-- Between characters. -/
  | between
  /-- Inside a character with the given leading bits, where the next byte has to
  lie in a window and `owed` more bytes follow it. -/
  | inside (bits owed : Nat) (window : Window)
deriving DecidableEq, Repr

/-- Reads a byte that begins a character, by its number. -/
def stepLead (number : Nat) : Text × Progress :=
  if number < 0x80 then
    ([Char.ofNat number], .between)
  else if number < 0xc2 then
    ([replacement], .between)
  else if number < 0xe0 then
    ([], .inside (number - 0xc0) 0 .full)
  else if number < 0xf0 then
    ([], .inside (number - 0xe0) 1
      (if number = 0xe0 then .fromA0 else if number = 0xed then .upTo9F else .full))
  else if number < 0xf5 then
    ([], .inside (number - 0xf0) 2
      (if number = 0xf0 then .from90 else if number = 0xf4 then .upTo8F else .full))
  else
    ([replacement], .between)

/-- Reads a byte inside a character, by its number: it continues the character,
or breaks it and begins another. -/
def stepInside (bits owed : Nat) (window : Window) (number : Nat) : Text × Progress :=
  if window.admits number then
    let extended := bits * 0x40 + (number - 0x80)
    match owed with
    | 0 => ([Char.ofNat extended], .between)
    | rest + 1 => ([], .inside extended rest .full)
  else
    (replacement :: (stepLead number).1, (stepLead number).2)

/-- Reads one byte: the characters it completes, and where decoding then
stands. -/
def step : Progress → UInt8 → Text × Progress
  | .between, byte => stepLead byte.toNat
  | .inside bits owed window, byte => stepInside bits owed window byte.toNat

/-- What an end of the bytes adds: a character that was begun is invalid. -/
def finish : Progress → Text
  | .between => []
  | .inside .. => [replacement]

def decodeFrom : Progress → Bytes → Text
  | progress, [] => finish progress
  | progress, byte :: rest =>
      (step progress byte).1 ++ decodeFrom (step progress byte).2 rest

/-- The text of any bytes, with a replacement for each maximal invalid part. -/
def decode (bytes : Bytes) : Text :=
  decodeFrom .between bytes

def encode (text : Text) : Bytes :=
  text.flatMap String.utf8EncodeChar

def decodeExact? (bytes : Bytes) : Option Text :=
  if encode (decode bytes) = bytes then some (decode bytes) else none

/-- The lines of bytes, each with its line feed; the last may have none, and is
then not empty. -/
def byteLines (bytes : Bytes) : List Bytes :=
  Sequence.splitAfter (· == 0x0a) bytes

/-- A line feed byte ends whatever stands before it, so decoding before it and
after it are independent. -/
theorem decodeFrom_append_lineFeed (progress : Progress) (before after : Bytes) :
    decodeFrom progress (before ++ 0x0a :: after) =
      decodeFrom progress before ++ '\n' :: decode after := by
  have lineFeed : stepLead 0x0a = (['\n'], .between) := by decide
  induction before generalizing progress with
  | nil =>
      cases progress with
      | between =>
          simp [decodeFrom, step, lineFeed, finish, decode]
      | inside bits owed window =>
          have refused : window.admits 0x0a = false := by
            cases window <;> decide
          simp [decodeFrom, step, stepInside, refused, lineFeed, finish, decode]
  | cons byte rest inductionHypothesis =>
      simp [decodeFrom, inductionHypothesis]

@[simp] theorem encode_nil : encode [] = [] := rfl

theorem encode_append (left right : Text) :
    encode (left ++ right) = encode left ++ encode right := by
  simp [encode]

/-- A number in the window completes a character. -/
theorem stepInside_last {bits number : Nat} {window : Window}
    (least : window.least ≤ number) (greatest : number ≤ window.greatest) :
    stepInside bits 0 window number =
      ([Char.ofNat (bits * 0x40 + (number - 0x80))], .between) := by
  simp [stepInside, Window.admits, least, greatest]

/-- A number in the window continues a character. -/
theorem stepInside_succ {bits owed number : Nat} {window : Window}
    (least : window.least ≤ number) (greatest : number ≤ window.greatest) :
    stepInside bits (owed + 1) window number =
      ([], .inside (bits * 0x40 + (number - 0x80)) owed .full) := by
  simp [stepInside, Window.admits, least, greatest]

theorem decodeFrom_between_cons {number : Nat} (small : number < 256) (rest : Bytes) :
    decodeFrom .between (UInt8.ofNat number :: rest) =
      (stepLead number).1 ++ decodeFrom (stepLead number).2 rest := by
  simp [decodeFrom, step, Nat.mod_eq_of_lt small]

theorem decodeFrom_inside_cons {bits owed number : Nat} {window : Window}
    (small : number < 256) (rest : Bytes) :
    decodeFrom (.inside bits owed window) (UInt8.ofNat number :: rest) =
      (stepInside bits owed window number).1 ++
        decodeFrom (stepInside bits owed window number).2 rest := by
  simp [decodeFrom, step, Nat.mod_eq_of_lt small]

theorem stepLead_two {number : Nat} (least : 0xc2 ≤ number) (greatest : number < 0xe0) :
    stepLead number = ([], .inside (number - 0xc0) 0 .full) := by
  simp [stepLead, show ¬ number < 0x80 by omega, show ¬ number < 0xc2 by omega, greatest]

theorem stepLead_three {number : Nat} (least : 0xe0 ≤ number) (greatest : number < 0xf0) :
    stepLead number = ([], .inside (number - 0xe0) 1
      (if number = 0xe0 then .fromA0 else if number = 0xed then .upTo9F else .full)) := by
  simp [stepLead, show ¬ number < 0x80 by omega, show ¬ number < 0xc2 by omega,
    show ¬ number < 0xe0 by omega, greatest]

theorem stepLead_four {number : Nat} (least : 0xf0 ≤ number) (greatest : number < 0xf5) :
    stepLead number = ([], .inside (number - 0xf0) 2
      (if number = 0xf0 then .from90 else if number = 0xf4 then .upTo8F else .full)) := by
  simp [stepLead, show ¬ number < 0x80 by omega, show ¬ number < 0xc2 by omega,
    show ¬ number < 0xe0 by omega, show ¬ number < 0xf0 by omega, greatest]

/-- The second of three bytes lies in the window that the first one opens, unless
the character is written longer than it needs to be or is a surrogate. -/
theorem second_of_three_mem_window (value : Nat) (least : 0x7ff < value)
    (greatest : value ≤ 0xffff) (notSurrogate : value < 0xd800 ∨ 0xdfff < value) :
    let lead := value / 4096 % 16 + 224
    let window : Window :=
      if lead = 0xe0 then .fromA0 else if lead = 0xed then .upTo9F else .full
    window.least ≤ value / 64 % 64 + 128 ∧ value / 64 % 64 + 128 ≤ window.greatest := by
  dsimp only
  split
  · simp only [Window.least, Window.greatest]; omega
  · split <;> simp only [Window.least, Window.greatest] <;> omega

/-- The second of four bytes lies in the window that the first one opens, unless
the character is written longer than it needs to be or lies beyond the last
plane. -/
theorem second_of_four_mem_window (value : Nat) (least : 0xffff < value)
    (greatest : value < 0x110000) :
    let lead := value / 262144 % 8 + 240
    let window : Window :=
      if lead = 0xf0 then .from90 else if lead = 0xf4 then .upTo8F else .full
    window.least ≤ value / 4096 % 64 + 128 ∧ value / 4096 % 64 + 128 ≤ window.greatest := by
  dsimp only
  split
  · simp only [Window.least, Window.greatest]; omega
  · split <;> simp only [Window.least, Window.greatest] <;> omega

theorem mem_full (value : Nat) :
    Window.full.least ≤ value % 64 + 128 ∧ value % 64 + 128 ≤ Window.full.greatest := by
  simp only [Window.least, Window.greatest]
  omega

/-- The bytes of a character are decoded to it, whatever follows. -/
theorem decodeFrom_encodeChar_append (character : Char) (rest : Bytes) :
    decodeFrom .between (String.utf8EncodeChar character ++ rest) =
      character :: decodeFrom .between rest := by
  have valid := character.valid
  have back : Char.ofNat character.val.toNat = character := Char.ofNat_toNat character
  simp only [UInt32.isValidChar, Nat.isValidChar] at valid
  generalize number : character.val.toNat = value at *
  unfold String.utf8EncodeChar
  simp only [number]
  have last := mem_full value
  have third := mem_full (value / 64)
  split
  · rw [List.singleton_append, decodeFrom_between_cons (by omega)]
    simp [stepLead, back, show value < 128 by omega]
  · split
    · simp only [List.cons_append, List.nil_append]
      rw [decodeFrom_between_cons (by omega), stepLead_two (by omega) (by omega),
        decodeFrom_inside_cons (by omega), stepInside_last last.1 last.2]
      have whole : (value / 64 % 32 + 192 - 0xc0) * 0x40 + (value % 64 + 128 - 0x80) = value := by
        omega
      rw [whole, back]
      rfl
    · split
      · have second := second_of_three_mem_window value (by omega) (by omega) (by omega)
        simp only [List.cons_append, List.nil_append]
        rw [decodeFrom_between_cons (by omega), stepLead_three (by omega) (by omega),
          decodeFrom_inside_cons (by omega), stepInside_succ second.1 second.2,
          decodeFrom_inside_cons (by omega), stepInside_last last.1 last.2]
        have whole : ((value / 4096 % 16 + 224 - 0xe0) * 0x40 +
            (value / 64 % 64 + 128 - 0x80)) * 0x40 + (value % 64 + 128 - 0x80) = value := by
          omega
        rw [whole, back]
        rfl
      · have second := second_of_four_mem_window value (by omega) (by omega)
        simp only [List.cons_append, List.nil_append]
        rw [decodeFrom_between_cons (by omega), stepLead_four (by omega) (by omega),
          decodeFrom_inside_cons (by omega), stepInside_succ second.1 second.2,
          decodeFrom_inside_cons (by omega), stepInside_succ third.1 third.2,
          decodeFrom_inside_cons (by omega), stepInside_last last.1 last.2]
        have whole : (((value / 262144 % 8 + 240 - 0xf0) * 0x40 +
            (value / 4096 % 64 + 128 - 0x80)) * 0x40 + (value / 64 % 64 + 128 - 0x80)) * 0x40 +
              (value % 64 + 128 - 0x80) = value := by
          omega
        rw [whole, back]
        rfl

@[simp] theorem decode_encode (text : Text) : decode (encode text) = text := by
  induction text with
  | nil => rfl
  | cons character rest inductionHypothesis =>
      simp only [decode, encode, List.flatMap_cons] at inductionHypothesis ⊢
      rw [decodeFrom_encodeChar_append, inductionHypothesis]

/-- Bytes are valid exactly when they are the bytes of a text. -/
theorem decodeExact?_eq_some_iff {bytes : Bytes} {text : Text} :
    decodeExact? bytes = some text ↔ bytes = encode text := by
  unfold decodeExact?
  constructor
  · intro decoded
    split at decoded
    · rename_i written
      rw [← Option.some.inj decoded, written]
    · simp at decoded
  · rintro rfl
    simp

end Utf8

end BacklogTrace
