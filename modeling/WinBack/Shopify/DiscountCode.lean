import WinBack.Crypto.Base32

/-! The discount code of a generation: a keyed digest, encoded and cut to its first symbols. -/

namespace WinBack.Shopify

open Library Base32

def winbackCodePrefix : String := "WB-"

def winbackCodeBase32Length : Nat := 16

/-- The digest is computed by the runtime. -/
def deriveWinbackDiscountCode (computeHmacSha256 : String → String → List UInt8) (secret merchantId aiGenerationId : String) :
    String :=
  let digest := computeHmacSha256 secret (merchantId ++ ":" ++ aiGenerationId)
  winbackCodePrefix ++ .ofList ((encodeCrockfordBase32 digest).toList.take winbackCodeBase32Length)

variable {computeHmacSha256 : String → String → List UInt8} {secret merchantId aiGenerationId otherMerchant otherGeneration : String}

theorem toList_code : (deriveWinbackDiscountCode computeHmacSha256 secret merchantId aiGenerationId).toList =
    ['W', 'B', '-'] ++ (encodeCrockfordBase32 (computeHmacSha256 secret (merchantId ++ ":" ++ aiGenerationId))).toList.take 16 := by
  unfold deriveWinbackDiscountCode
  rw [String.toList_append, String.toList_ofList]
  rfl

/-- Two codes are the same if and only if the first eighty bits of the digests are. -/
theorem deriveWinbackDiscountCode_eq_iff (digest : ∀ secret message, (computeHmacSha256 secret message).length = 32) :
    deriveWinbackDiscountCode computeHmacSha256 secret merchantId aiGenerationId =
        deriveWinbackDiscountCode computeHmacSha256 secret otherMerchant otherGeneration ↔
      (inputBits (computeHmacSha256 secret (merchantId ++ ":" ++ aiGenerationId))).take 80 =
        (inputBits (computeHmacSha256 secret (otherMerchant ++ ":" ++ otherGeneration))).take 80 := by
  refine Iff.trans ?_ (@take_encode_iff _ _ 16 (.inl ((digest _ _).trans (digest _ _).symm)))
  rw [← String.toList_inj, toList_code, toList_code, List.append_cancel_left_eq]

/-- The symbols of a code. -/
theorem mem_code {letter : Char} (listed : letter ∈ (deriveWinbackDiscountCode computeHmacSha256 secret merchantId aiGenerationId).toList) :
    letter ∈ ['W', 'B', '-'] ++ crockfordAlphabet.toList := by
  rw [toList_code] at listed
  rcases List.mem_append.mp listed with here | symbol
  · exact List.mem_append_left _ here
  · exact List.mem_append_right _ ((encode_spells _).1 letter (List.mem_of_mem_take symbol))

end WinBack.Shopify
