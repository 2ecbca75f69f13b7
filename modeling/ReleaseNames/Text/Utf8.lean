/-!
# Reading UTF-8

Bytes are read as the shortest, non-surrogate encodings of characters. An error
says where the first bad sequence starts and how many of its bytes could have
started a character, or that the bytes end inside a character.
-/

namespace ReleaseNames.Text

inductive Utf8Error where
  | invalid (index length : Nat)
  | incomplete (index : Nat)
deriving DecidableEq

def Utf8Error.message : Utf8Error → String
  | .invalid index length =>
    "invalid utf-8 sequence of " ++ toString length ++ " bytes from index " ++ toString index
  | .incomplete index => "incomplete utf-8 byte sequence from index " ++ toString index

def isContinuation (b : UInt8) : Bool :=
  0x80 ≤ b && b ≤ 0xBF

/-- A second byte that may follow a first byte of a sequence of three or four bytes. -/
def isSecond (first b : UInt8) : Bool :=
  if first = 0xE0 then 0xA0 ≤ b && b ≤ 0xBF
  else if first = 0xED then 0x80 ≤ b && b ≤ 0x9F
  else if first = 0xF0 then 0x90 ≤ b && b ≤ 0xBF
  else if first = 0xF4 then 0x80 ≤ b && b ≤ 0x8F
  else isContinuation b

/-- The character whose bits are the low bits of a first byte and of continuation bytes. -/
def assemble (first : Nat) (rest : List UInt8) : Char :=
  Char.ofNat (rest.foldl (fun n b => n * 64 + b.toNat % 64) first)

/-- The characters that bytes encode; `index` is the number of bytes before them. -/
def decodeUtf8 (index : Nat) : List UInt8 → Except Utf8Error (List Char)
  | [] => .ok []
  | a :: rest =>
    if a < 0x80 then (decodeUtf8 (index + 1) rest).map (Char.ofNat a.toNat :: ·)
    else if 0xC2 ≤ a ∧ a ≤ 0xDF then
      match rest with
      | [] => .error (.incomplete index)
      | b :: rest =>
        if isContinuation b then
          (decodeUtf8 (index + 2) rest).map (assemble (a.toNat % 32) [b] :: ·)
        else .error (.invalid index 1)
    else if 0xE0 ≤ a ∧ a ≤ 0xEF then
      match rest with
      | [] => .error (.incomplete index)
      | b :: rest =>
        if !isSecond a b then .error (.invalid index 1)
        else
          match rest with
          | [] => .error (.incomplete index)
          | c :: rest =>
            if isContinuation c then
              (decodeUtf8 (index + 3) rest).map (assemble (a.toNat % 16) [b, c] :: ·)
            else .error (.invalid index 2)
    else if 0xF0 ≤ a ∧ a ≤ 0xF4 then
      match rest with
      | [] => .error (.incomplete index)
      | b :: rest =>
        if !isSecond a b then .error (.invalid index 1)
        else
          match rest with
          | [] => .error (.incomplete index)
          | c :: rest =>
            if !isContinuation c then .error (.invalid index 2)
            else
              match rest with
              | [] => .error (.incomplete index)
              | d :: rest =>
                if isContinuation d then
                  (decodeUtf8 (index + 4) rest).map (assemble (a.toNat % 8) [b, c, d] :: ·)
                else .error (.invalid index 3)
    else .error (.invalid index 1)

def ofUtf8 (bytes : List UInt8) : Except Utf8Error String :=
  (decodeUtf8 0 bytes).map String.ofList

end ReleaseNames.Text
