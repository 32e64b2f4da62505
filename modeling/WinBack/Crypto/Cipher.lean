import WinBack.Library.Base64

/-! The cipher of the session tokens: AES-256-GCM, with the version, the nonce and the tag in the text. -/

namespace WinBack.Crypto

open Library

def utf8 (text : String) : List UInt8 := text.toByteArray.data.toList

/-- AES-256-GCM and the UTF-8 decoder of the runtime. A tag is accepted only with what it was made of. -/
structure Runtime where
  aesSeal : List UInt8 → List UInt8 → List UInt8 → List UInt8 × List UInt8
  aesOpen : List UInt8 → List UInt8 → List UInt8 → List UInt8 → Option (List UInt8)
  fromUtf8 : List UInt8 → String
  opens_iff : ∀ key iv tag ciphertext plaintext,
    aesOpen key iv tag ciphertext = some plaintext ↔ aesSeal key iv plaintext = (ciphertext, tag)
  tag_length : ∀ key iv plaintext, (aesSeal key iv plaintext).2.length = 16
  fromUtf8_utf8 : ∀ text : String, fromUtf8 (utf8 text) = text

def version : String := "v1"

def keyLen : Nat := 32

def ivLen : Nat := 12

def tagLen : Nat := 16

inductive CipherError where
  | missingPrefix
  | unsupportedVersion (version : String)
  | tooShort
  | failed
  deriving DecidableEq, Repr

def CipherError.message : CipherError → String
  | .missingPrefix => "Ciphertext missing version prefix"
  | .unsupportedVersion version => s!"Unsupported ciphertext version: {version}"
  | .tooShort => "Ciphertext payload too short"
  | .failed => "Decryption failed (tampered or wrong key)"

/-- The constructor takes a key of 32 bytes only. -/
structure Cipher where
  key : List UInt8
  length : key.length = keyLen

/-- A nonce. -/
abbrev Iv := { iv : List UInt8 // iv.length = ivLen }

def decodeKey (base64 : String) : Except String Cipher :=
  let key := Base64.decode base64.toList
  if length : key.length = keyLen then .ok ⟨key, length⟩
  else .error s!"ENCRYPTION_KEY must decode to {keyLen} bytes; got {key.length}."

variable (runtime : Runtime) (cipher : Cipher)

/-- Nonce, tag and ciphertext. -/
def Cipher.payload (iv : Iv) (plaintext : List UInt8) : List UInt8 :=
  iv.val ++ (runtime.aesSeal cipher.key iv.val plaintext).2 ++ (runtime.aesSeal cipher.key iv.val plaintext).1

def Cipher.encrypt (iv : Iv) (plaintext : String) : String :=
  version ++ ":" ++ .ofList (Base64.encode (cipher.payload runtime iv (utf8 plaintext)))

/-- The base64 decoder never throws. -/
def Cipher.decrypt (value : String) : Except CipherError String :=
  match value.toList.dropWhile (· ≠ ':') with
  | [] => .error .missingPrefix
  | _ :: payloadB64 =>
    let given := String.ofList (value.toList.takeWhile (· ≠ ':'))
    if given ≠ version then .error (.unsupportedVersion given)
    else
      let payload := Base64.decode payloadB64
      if payload.length < ivLen + tagLen then .error .tooShort
      else
        let iv := payload.take ivLen
        let tag := (payload.drop ivLen).take tagLen
        match runtime.aesOpen cipher.key iv tag (payload.drop (ivLen + tagLen)) with
        | none => .error .failed
        | some plaintext => .ok (runtime.fromUtf8 plaintext)

variable {runtime cipher} {value text : String}

theorem toList_versioned (payloadB64 : List Char) :
    (version ++ ":" ++ String.ofList payloadB64).toList = version.toList ++ ':' :: payloadB64 := by
  simp only [String.toList_append, String.toList_ofList, List.append_assoc]
  rfl

theorem split_versioned (payloadB64 : List Char) : let value := (version ++ ":" ++ String.ofList payloadB64).toList
    value.takeWhile (· ≠ ':') = version.toList ∧ value.dropWhile (· ≠ ':') = ':' :: payloadB64 := by
  rw [toList_versioned]
  exact ⟨rfl, rfl⟩

/-- A text that is taken is of this version. -/
theorem versioned_of_split {first : Char} {rest : List Char} (colon : value.toList.dropWhile (· ≠ ':') = first :: rest)
    (named : String.ofList (value.toList.takeWhile (· ≠ ':')) = version) : value = version ++ ":" ++ .ofList rest := by
  have whole := List.takeWhile_append_dropWhile (p := fun char => decide (char ≠ ':')) (l := value.toList)
  have stops : ¬decide (first ≠ ':') = true := by
    have head := List.head?_dropWhile_not (fun char => decide (char ≠ ':')) value.toList
    rw [colon] at head
    simpa using head
  obtain rfl : first = ':' := by simpa using stops
  have front : value.toList.takeWhile (· ≠ ':') = version.toList := by
    rw [← named, String.toList_ofList]
  apply String.toList_injective
  rw [toList_versioned, ← whole, front, colon]

theorem payload_parts {iv tag ciphertext : List UInt8} (nonce : iv.length = ivLen) (long : tag.length = tagLen) :
    let payload := iv ++ tag ++ ciphertext
    ivLen + tagLen ≤ payload.length ∧ payload.take ivLen = iv ∧ (payload.drop ivLen).take tagLen = tag ∧
      payload.drop (ivLen + tagLen) = ciphertext := by
  rw [← nonce, ← long]
  refine ⟨?_, ?_, ?_, ?_⟩
  · simp only [List.length_append]
    omega
  · rw [List.append_assoc, List.take_left]
  · rw [List.append_assoc, List.drop_left, List.take_left]
  · rw [← List.length_append, List.drop_left]

/-- A payload that is long enough is a nonce, a tag and a ciphertext. -/
theorem payload_split {payload : List UInt8} (long : ¬payload.length < ivLen + tagLen) :
    (payload.take ivLen).length = ivLen ∧
      payload.take ivLen ++ (payload.drop ivLen).take tagLen ++ payload.drop (ivLen + tagLen) = payload := by
  constructor
  · rw [List.length_take]
    omega
  · rw [← List.drop_drop, List.append_assoc, List.take_append_drop, List.take_append_drop]

/-- What is taken is the payload of an encryption with this key, and nothing else is. -/
theorem decrypt_iff : cipher.decrypt runtime value = .ok text ↔
    ∃ iv plaintext payloadB64, value = version ++ ":" ++ .ofList payloadB64 ∧
      Base64.decode payloadB64 = cipher.payload runtime iv plaintext ∧ runtime.fromUtf8 plaintext = text := by
  constructor
  · intro decrypted
    unfold Cipher.decrypt at decrypted
    split at decrypted
    · cases decrypted
    rename_i first payloadB64 colon
    dsimp only at decrypted
    split at decrypted
    · cases decrypted
    rename_i named
    split at decrypted
    · cases decrypted
    rename_i long
    split at decrypted
    · cases decrypted
    rename_i plaintext opened
    obtain ⟨nonce, whole⟩ := payload_split long
    refine ⟨⟨_, nonce⟩, plaintext, payloadB64, versioned_of_split colon (not_not.mp named), ?_, Except.ok.inj decrypted⟩
    rw [Cipher.payload, (runtime.opens_iff ..).mp opened, whole]
  · rintro ⟨⟨iv, nonce⟩, plaintext, payloadB64, rfl, decoded, rfl⟩
    obtain ⟨front, back⟩ := split_versioned payloadB64
    obtain ⟨long, first, tag, ciphertext⟩ := @payload_parts iv (runtime.aesSeal cipher.key iv plaintext).2
      (runtime.aesSeal cipher.key iv plaintext).1 nonce (runtime.tag_length ..)
    have opened : runtime.aesOpen cipher.key iv (runtime.aesSeal cipher.key iv plaintext).2
        (runtime.aesSeal cipher.key iv plaintext).1 = some plaintext := (runtime.opens_iff ..).mpr rfl
    unfold Cipher.decrypt
    rw [back]
    dsimp only
    rw [front, String.ofList_toList, if_neg (not_not.mpr rfl), decoded, Cipher.payload, if_neg (Nat.not_lt.mpr long), first, tag,
      ciphertext, opened]

theorem decrypt_encrypt (iv : Iv) : cipher.decrypt runtime (cipher.encrypt runtime iv text) = .ok text :=
  decrypt_iff.mpr ⟨iv, utf8 text, _, rfl, Base64.decode_encode _, runtime.fromUtf8_utf8 text⟩

end WinBack.Crypto
