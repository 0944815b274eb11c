import Mathlib.Data.List.Basic

/-! Authenticated encryption with associated data, as far as a correctness proof
uses it: what was sealed opens under the same key, nonce and associated data. -/
namespace AtronixX.Library.Sealed

abbrev Bytes := List UInt8

/-- A GCM nonce; the length is part of the type, so that a ciphertext prefixed
with its nonce splits again. -/
abbrev Nonce := {bytes : Bytes // bytes.length = 12}

theorem length_zeros : (List.replicate 12 (0 : UInt8)).length = 12 := rfl

structure Aead (κ : Type) where
  encrypt : κ → Bytes → Bytes → Bytes → Bytes
  decrypt : κ → Bytes → Bytes → Bytes → Option Bytes
  decrypt_encrypt : ∀ key nonce data aad,
    decrypt key nonce (encrypt key nonce data aad) aad = some data

variable {κ : Type} (aead : Aead κ)

/-- The nonce in front of the ciphertext. -/
def frame (key : κ) (nonce : Nonce) (data aad : Bytes) : Bytes :=
  nonce.val ++ aead.encrypt key nonce.val data aad

def unframe (key : κ) (raw aad : Bytes) : Option Bytes :=
  aead.decrypt key (raw.take 12) (raw.drop 12) aad

@[simp] theorem unframe_frame (key : κ) (nonce : Nonce) (data aad : Bytes) :
    unframe aead key (frame aead key nonce data aad) aad = some data := by
  obtain ⟨bytes,size⟩ := nonce
  have front : (bytes ++ aead.encrypt key bytes data aad).take 12 = bytes := by
    rw [List.take_append_of_le_length (by omega),List.take_of_length_le (by omega)]
  have back : (bytes ++ aead.encrypt key bytes data aad).drop 12 =
      aead.encrypt key bytes data aad := by
    rw [← size]
    exact List.drop_left
  simp only [unframe,frame,front,back]
  exact aead.decrypt_encrypt key bytes data aad

/-- A cipher that writes key and associated data in front of the plaintext and
checks both on opening. It hides nothing; it only shows that the law has a model. -/
def transparent [DecidableEq κ] (code : κ → Bytes) : Aead κ where
  encrypt key _ data aad := code key ++ aad ++ data
  decrypt key _ raw aad :=
    if (code key ++ aad).isPrefixOf raw then some (raw.drop (code key ++ aad).length) else none
  decrypt_encrypt key nonce data aad := by
    have front : (code key ++ aad).isPrefixOf (code key ++ aad ++ data) = true := by
      simp [List.isPrefixOf_iff_prefix]
    rw [if_pos front]
    exact congrArg some List.drop_left

end AtronixX.Library.Sealed
