import WinBack.Crypto.Cipher

/-! The session storage of the app: an adapter, which stores sessions as they are, behind a decorator that encrypts their
tokens. The adapter is a parameter of which only this is known: it does not look at the tokens. -/

namespace WinBack.Shopify

open Crypto

/-- A session of the SDK; `rest` is what no one here looks at. -/
structure SdkSession (Rest : Type) where
  id : String
  shop : String
  accessToken : Option String
  rest : Rest

def SdkSession.withToken {Rest : Type} (change : String → String) (session : SdkSession Rest) : SdkSession Rest :=
  { session with accessToken := session.accessToken.map change }

/-- The functions of a storage; a write answers whether it was done. -/
structure SessionStorage (State Rest : Type) where
  storeSession : SdkSession Rest → State → Bool × State
  loadSession : String → State → Option (SdkSession Rest)
  deleteSession : String → State → Bool × State
  deleteSessions : List String → State → Bool × State
  findSessionsByShop : String → State → List (SdkSession Rest)

/-- A change of tokens that takes no token for none. -/
def KeepsEmpty (change : String → String) : Prop := ∀ token, change token = "" ↔ token = ""

/-- The adapter handles tokens as they are: to change all tokens first or last is the same. Nothing is deleted where
no session is named. -/
structure Adapter (State Rest : Type) extends SessionStorage State Rest where
  renamed : (String → String) → State → State
  store_renamed : ∀ change session state, KeepsEmpty change →
    storeSession (session.withToken change) (renamed change state) =
      ((storeSession session state).1, renamed change (storeSession session state).2)
  load_renamed : ∀ change id state, KeepsEmpty change →
    loadSession id (renamed change state) = (loadSession id state).map (·.withToken change)
  delete_renamed : ∀ change id state, KeepsEmpty change →
    deleteSession id (renamed change state) = ((deleteSession id state).1, renamed change (deleteSession id state).2)
  deleteMany_renamed : ∀ change ids state, KeepsEmpty change →
    deleteSessions ids (renamed change state) = ((deleteSessions ids state).1, renamed change (deleteSessions ids state).2)
  deleteMany_nil : ∀ state, deleteSessions [] state = (true, state)
  find_renamed : ∀ change shop state, KeepsEmpty change →
    findSessionsByShop shop (renamed change state) = (findSessionsByShop shop state).map (·.withToken change)

namespace EncryptedSessionStorage

variable {State Rest : Type} (runtime : Runtime) (cipher : Cipher) (inner : SessionStorage State Rest)

/-- The session that is stored in place of one: its token is encrypted, if there is one. -/
def sealedSession (iv : Iv) (session : SdkSession Rest) : SdkSession Rest :=
  match session.accessToken with
  | none => session
  | some original =>
    if original = "" then session else { session with accessToken := some (cipher.encrypt runtime iv original) }

/-- A token that does not decrypt is dropped. -/
def opened (session : SdkSession Rest) : SdkSession Rest :=
  match session.accessToken with
  | none => session
  | some stored =>
    if stored = "" then session
    else
      match cipher.decrypt runtime stored with
      | .ok token => { session with accessToken := some token }
      | .error _ => { session with accessToken := none }

def storeSession (iv : Iv) (session : SdkSession Rest) (state : State) : Bool × State :=
  inner.storeSession (sealedSession runtime cipher iv session) state

def loadSession (id : String) (state : State) : Option (SdkSession Rest) :=
  (inner.loadSession id state).map (opened runtime cipher)

def deleteSession (id : String) (state : State) : Bool × State := inner.deleteSession id state

def deleteSessions (ids : List String) (state : State) : Bool × State :=
  if ids = [] then (true, state) else inner.deleteSessions ids state

def findSessionsByShop (shop : String) (state : State) : List (SdkSession Rest) :=
  (inner.findSessionsByShop shop state).map (opened runtime cipher)

end EncryptedSessionStorage

section Operations

/-- What the SDK and the app ask of a storage. A stored session comes with the nonce that is drawn for it. -/
inductive Operation (Rest : Type) where
  | storeSession (session : SdkSession Rest) (iv : Iv)
  | loadSession (id : String)
  | deleteSession (id : String)
  | deleteSessions (ids : List String)
  | findSessionsByShop (shop : String)

inductive Answer (Rest : Type) where
  | done (stored : Bool)
  | session (found : Option (SdkSession Rest))
  | sessions (found : List (SdkSession Rest))

variable {State Rest : Type}

/-- The adapter alone. -/
def SessionStorage.answer (storage : SessionStorage State Rest) (state : State) : Operation Rest → Answer Rest × State
  | .storeSession session _ => ((.done (storage.storeSession session state).1), (storage.storeSession session state).2)
  | .loadSession id => (.session (storage.loadSession id state), state)
  | .deleteSession id => (.done (storage.deleteSession id state).1, (storage.deleteSession id state).2)
  | .deleteSessions ids => (.done (storage.deleteSessions ids state).1, (storage.deleteSessions ids state).2)
  | .findSessionsByShop shop => (.sessions (storage.findSessionsByShop shop state), state)

/-- The storage of the app. -/
def EncryptedSessionStorage.answer (runtime : Runtime) (cipher : Cipher) (inner : SessionStorage State Rest) (state : State) :
    Operation Rest → Answer Rest × State
  | .storeSession session iv =>
    (.done (storeSession runtime cipher inner iv session state).1, (storeSession runtime cipher inner iv session state).2)
  | .loadSession id => (.session (loadSession runtime cipher inner id state), state)
  | .deleteSession id => (.done (deleteSession inner id state).1, (deleteSession inner id state).2)
  | .deleteSessions ids => (.done (deleteSessions inner ids state).1, (deleteSessions inner ids state).2)
  | .findSessionsByShop shop => (.sessions (findSessionsByShop runtime cipher inner shop state), state)

/-- The answers to one operation after the other, and the state that is left. -/
def answers (answer : State → Operation Rest → Answer Rest × State) (state : State) : List (Operation Rest) →
    List (Answer Rest) × State
  | [] => ([], state)
  | operation :: rest =>
    let (first, next) := answer state operation
    let (others, last) := answers answer next rest
    (first :: others, last)

end Operations

section Sealing

variable {runtime : Runtime} {cipher : Cipher} {token : String}

/-- A text that the decorator may store. -/
def Sealed (runtime : Runtime) (cipher : Cipher) (stored : String) : Prop :=
  stored = "" ∨ ∃ iv token, token ≠ "" ∧ stored = cipher.encrypt runtime iv token

theorem encrypt_ne_empty (iv : Iv) (token : String) : cipher.encrypt runtime iv token ≠ "" := by
  intro empty
  have spelled := congrArg String.toList empty
  rw [Cipher.encrypt, toList_versioned] at spelled
  exact absurd spelled (by simp)

/-- The token that a stored text stands for. -/
def unsealed (runtime : Runtime) (cipher : Cipher) (stored : String) : String :=
  match cipher.decrypt runtime stored with
  | .ok token => if token = "" then stored else token
  | .error _ => stored

theorem unsealed_encrypt (iv : Iv) (some : token ≠ "") : unsealed runtime cipher (cipher.encrypt runtime iv token) = token := by
  rw [unsealed, decrypt_encrypt]
  exact if_neg some

theorem unsealed_keepsEmpty : KeepsEmpty (unsealed runtime cipher) := by
  intro stored
  unfold unsealed
  split
  · rename_i token decrypted
    split
    · rfl
    · rename_i some
      refine ⟨fun empty => absurd empty some, fun empty => ?_⟩
      subst empty
      cases decrypted
  · rfl

end Sealing

section Transparency

variable {State Rest : Type} {runtime : Runtime} {cipher : Cipher} {adapter : Adapter State Rest} {state : State}
  {session : SdkSession Rest}

open EncryptedSessionStorage

/-- The token of the session is empty or encrypted, if there is one. -/
def SealedSession (runtime : Runtime) (cipher : Cipher) (session : SdkSession Rest) : Prop :=
  ∀ stored, session.accessToken = some stored → Sealed runtime cipher stored

theorem sealedSession_sealed (iv : Iv) (session : SdkSession Rest) :
    SealedSession runtime cipher (sealedSession runtime cipher iv session) := by
  intro stored held
  unfold sealedSession at held
  split at held
  · rename_i none
    rw [none] at held
    cases held
  · rename_i original given
    split at held
    · rename_i empty
      rw [given, empty] at held
      exact .inl (Option.some.inj held).symm
    · rename_i visible
      exact .inr ⟨iv, original, visible, (Option.some.inj held).symm⟩

theorem unsealed_sealedSession (iv : Iv) (session : SdkSession Rest) :
    (sealedSession runtime cipher iv session).withToken (unsealed runtime cipher) = session := by
  obtain ⟨id, shop, accessToken, rest⟩ := session
  unfold sealedSession
  split
  · rename_i none
    cases none
    rfl
  · rename_i original given
    cases given
    split
    · rename_i empty
      simp only [SdkSession.withToken, Option.map_some, empty, (unsealed_keepsEmpty "").mpr rfl]
    · rename_i visible
      simp only [SdkSession.withToken, Option.map_some, unsealed_encrypt iv visible]

/-- A sealed session is opened to the one that it stands for. -/
theorem opened_sealed (sealed : SealedSession runtime cipher session) :
    opened runtime cipher session = session.withToken (unsealed runtime cipher) := by
  obtain ⟨id, shop, accessToken, rest⟩ := session
  cases accessToken with
  | none => rfl
  | some stored =>
    rcases sealed stored rfl with rfl | ⟨iv, token, visible, rfl⟩
    · rfl
    · simp only [opened, SdkSession.withToken, Option.map_some, encrypt_ne_empty, if_false, decrypt_encrypt,
        unsealed_encrypt iv visible]

/-- The state without encryption. -/
def plain (runtime : Runtime) (cipher : Cipher) (adapter : Adapter State Rest) : State → State :=
  adapter.renamed (unsealed runtime cipher)

/-- The stored text is the encryption of a plaintext with the key of the app, and the token is its text. -/
def Seals (runtime : Runtime) (cipher : Cipher) (stored token : String) : Prop :=
  ∃ iv plaintext payloadB64, stored = version ++ ":" ++ .ofList payloadB64 ∧
    Library.Base64.decode payloadB64 = cipher.payload runtime iv plaintext ∧ runtime.fromUtf8 plaintext = token

/-- Whatever is stored, also what was written past the decorator: a session is loaded as it is stored but for its token.
A stored text gives a token if and only if it is the encryption of this token with the key of the app, and every other
one is dropped. -/
theorem loaded_token_authentic {id : String} (loaded : loadSession runtime cipher adapter.toSessionStorage id state = some session) :
    ∃ stored, adapter.loadSession id state = some stored ∧ session = { stored with accessToken := session.accessToken } ∧
      ∀ text, stored.accessToken = some text → text ≠ "" →
        (∀ token, session.accessToken = some token ↔ Seals runtime cipher text token) ∧
          (session.accessToken = none ↔ ∀ token, ¬Seals runtime cipher text token) := by
  obtain ⟨stored, found, same⟩ := Option.map_eq_some_iff.mp loaded
  refine ⟨stored, found, ?_⟩
  unfold opened at same
  split at same
  · rename_i none
    subst same
    exact ⟨rfl, fun text held => by simp [none] at held⟩
  rename_i text given
  split at same
  · rename_i empty
    subst same
    refine ⟨rfl, fun other held visible => ?_⟩
    rw [given, empty] at held
    exact absurd (Option.some.inj held).symm visible
  have sealing (token : String) : Seals runtime cipher text token ↔ cipher.decrypt runtime text = .ok token :=
    decrypt_iff.symm
  split at same
  · rename_i token decrypted
    subst same
    refine ⟨rfl, fun other held _ => ?_⟩
    obtain rfl : text = other := Option.some.inj (given.symm.trans held)
    simp [sealing, decrypted]
  · rename_i error refused
    subst same
    refine ⟨rfl, fun other held _ => ?_⟩
    obtain rfl : text = other := Option.some.inj (given.symm.trans held)
    simp [sealing, refused]

end Transparency

section Rows

/-- A table of sessions, one for each id. -/
def rowStorage : SessionStorage (List (SdkSession Unit)) Unit where
  storeSession session rows := (true, rows.filter (·.id ≠ session.id) ++ [session])
  loadSession id rows := rows.find? (·.id = id)
  deleteSession id rows := (true, rows.filter (·.id ≠ id))
  deleteSessions ids rows := (true, rows.filter (·.id ∉ ids))
  findSessionsByShop shop rows := rows.filter (·.shop = shop)

def rowAdapter : Adapter (List (SdkSession Unit)) Unit where
  toSessionStorage := rowStorage
  renamed change rows := rows.map (·.withToken change)
  store_renamed change session rows _ := by
    simp only [rowStorage, List.filter_map, List.map_append]
    rfl
  load_renamed change id rows _ := by
    simp only [rowStorage, List.find?_map]
    rfl
  delete_renamed change id rows _ := by
    simp only [rowStorage, List.filter_map]
    rfl
  deleteMany_renamed change ids rows _ := by
    simp only [rowStorage, List.filter_map]
    rfl
  deleteMany_nil rows := by simp [rowStorage]
  find_renamed change shop rows _ := by
    simp only [rowStorage, List.filter_map]
    rfl

/-- The ciphertext is the plaintext, and the tag is the nonce and four bytes more. -/
def toyRuntime : Runtime where
  aesSeal _ iv plaintext := (plaintext, (iv ++ List.replicate 16 0).take 16)
  aesOpen _ iv tag ciphertext := if tag = (iv ++ List.replicate 16 0).take 16 then some ciphertext else none
  fromUtf8 bytes := (String.fromUTF8? ⟨bytes.toArray⟩).getD ""
  opens_iff key iv tag ciphertext plaintext := by
    simp only [Option.ite_none_right_eq_some, Option.some.injEq, Prod.mk.injEq]
    constructor
    · rintro ⟨rfl, rfl⟩
      exact ⟨rfl, rfl⟩
    · rintro ⟨rfl, rfl⟩
      exact ⟨rfl, rfl⟩
  tag_length key iv plaintext := by simp
  fromUtf8_utf8 text := by
    have bytes : (⟨(utf8 text).toArray⟩ : ByteArray) = text.toByteArray := by rw [utf8, Array.toArray_toList]
    rw [bytes, String.fromUTF8?, dif_pos text.isValidUTF8]
    rfl

def zeroCipher : Cipher := ⟨List.replicate 32 0, rfl⟩

def firstIv : Iv := ⟨List.replicate 12 1, rfl⟩

def offlineSession : SdkSession Unit := ⟨"offline_a1.myshopify.com", "a1.myshopify.com", some "shpat", ()⟩

theorem loaded_token_authentic_stored : ∃ session,
    EncryptedSessionStorage.loadSession toyRuntime zeroCipher rowStorage offlineSession.id
      [EncryptedSessionStorage.sealedSession toyRuntime zeroCipher firstIv offlineSession] = some session ∧
    ∃ stored, rowStorage.loadSession offlineSession.id
        [EncryptedSessionStorage.sealedSession toyRuntime zeroCipher firstIv offlineSession] = some stored ∧
      ∃ text, stored.accessToken = some text ∧ Seals toyRuntime zeroCipher text "shpat" := by
  have loaded : EncryptedSessionStorage.loadSession toyRuntime zeroCipher rowStorage offlineSession.id
      [EncryptedSessionStorage.sealedSession toyRuntime zeroCipher firstIv offlineSession] = some offlineSession := by
    have stored : rowStorage.loadSession offlineSession.id
        [EncryptedSessionStorage.sealedSession toyRuntime zeroCipher firstIv offlineSession] =
          some (EncryptedSessionStorage.sealedSession toyRuntime zeroCipher firstIv offlineSession) := rfl
    rw [EncryptedSessionStorage.loadSession, stored, Option.map_some, opened_sealed (sealedSession_sealed _ _),
      unsealed_sealedSession]
  obtain ⟨stored, found, _, authentic⟩ := @loaded_token_authentic _ _ toyRuntime zeroCipher rowAdapter _ _ _ loaded
  obtain rfl := Option.some.inj (found.symm.trans rfl)
  exact ⟨offlineSession, loaded, _, found, _, rfl, ((authentic _ rfl (encrypt_ne_empty _ _)).1 "shpat").mp rfl⟩

end Rows

end WinBack.Shopify
