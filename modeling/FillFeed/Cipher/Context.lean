import FillFeed.Cipher.Base64
import FillFeed.Cipher.Cbc
import FillFeed.Text.Blank
import FillFeed.Text.Utf8
import FillFeed.Text.Quoted

/-!
# Encryption of one stream

A `Cipher.Context` is the key and the initial vector of one stream. `Context.decrypt` reads the
payload of an encrypted frame, a base64 text of a padded AES chain, and `Context.encrypt` writes
one the way the feed does.
-/

namespace FillFeed.Cipher

/-- Why a payload cannot be decrypted, or a context not be built. -/
inductive Error where
  | invalidLength (key iv : Nat)
  | base64
  | decrypt
  | utf8
  deriving DecidableEq

/-- The wording of an error. -/
def Error.message : Error → String
  | .invalidLength key iv =>
    "invalid key/iv length (key " ++ Text.decimalNat key ++ ", iv " ++ Text.decimalNat iv ++ ")"
  | .base64 => "invalid base64 ciphertext"
  | .decrypt => "decryption failed"
  | .utf8 => "plaintext is not UTF-8"

/-- The lengths that a key may have. -/
def keyLengths : List Nat := [16, 24, 32]

/-- The key and the initial vector of a stream. -/
structure Context where
  key : List UInt8
  iv : List UInt8
  key_length : key.length ∈ keyLengths
  iv_length : iv.length = 16
  deriving DecidableEq

namespace Context

/-- The context with this key and this initial vector, when their lengths are right. -/
def ofBytes (key iv : List UInt8) : Except Error Context :=
  if h : key.length ∈ keyLengths ∧ iv.length = 16 then .ok ⟨key, iv, h.1, h.2⟩
  else .error (.invalidLength key.length iv.length)

/-- The context whose key and initial vector are the bytes of two texts. -/
def ofTexts (key iv : String) : Except Error Context :=
  ofBytes (Utf8.encode key) (Utf8.encode iv)

/-- The initial vector as a block. -/
def firstBlock (c : Context) : Aes.Block :=
  (Aes.blocks (Aes.columns c.iv)).headD ⟨⟨0, 0, 0, 0⟩, ⟨0, 0, 0, 0⟩, ⟨0, 0, 0, 0⟩, ⟨0, 0, 0, 0⟩⟩

/-- Bytes decrypted: whole blocks, at least one, with proper padding at the end. -/
def decryptBytes (c : Context) (bytes : List UInt8) : Except Error (List UInt8) :=
  if bytes.length % 16 ≠ 0 then .error .decrypt
  else
    let plain := Cbc.decrypt (Aes.roundKeys c.key) c.firstBlock (Aes.blocks (Aes.columns bytes))
    match Cbc.unpad? (plain.flatMap Aes.Block.toBytes) with
    | some text => .ok text
    | none => .error .decrypt

/-- The text behind a base64 ciphertext, which may have blanks around it. -/
def decrypt (c : Context) (ciphertext : String) : Except Error String :=
  match Base64.decode? (Text.trimChars ciphertext.toList) with
  | none => .error .base64
  | some bytes =>
    match c.decryptBytes bytes with
    | .error e => .error e
    | .ok plain =>
      match Utf8.decode? plain with
      | none => .error .utf8
      | some text => .ok text

/-- Bytes padded and encrypted. -/
def encryptBytes (c : Context) (plain : List UInt8) : List UInt8 :=
  (Cbc.encrypt (Aes.roundKeys c.key) c.firstBlock
    (Aes.blocks (Aes.columns (Cbc.pad plain)))).flatMap Aes.Block.toBytes

/-- The base64 ciphertext of a text. -/
def encrypt (c : Context) (text : String) : String :=
  String.ofList (Base64.encode (c.encryptBytes (Utf8.encode text)))

/-- The description of a context, which tells the lengths alone. -/
def describe (c : Context) : String :=
  "StreamEncryptionContext \x7b key_len: " ++ Text.decimalNat c.key.length ++ ", iv_len: " ++
    Text.decimalNat c.iv.length ++ " \x7d"

end Context

end FillFeed.Cipher
