import WinBack.Library.Shape

/-! The schema of `MerchantSettings.aiTone`. -/

namespace WinBack.Tenant

open Library

def aiToneStyles : List String := ["formal", "casual", "playful", "professional"]

def aiToneEmojiPolicies : List String := ["none", "minimal", "liberal"]

/-- `z.array(z.string().min(1).max(100)).max(50).default([])`. -/
def phrases : Shape := .withDefault (.array (.string 1 (some 100)) (some 50)) (.arr [])

def aiToneSchema : Shape :=
  .object [
    ("style", .oneOf aiToneStyles),
    ("avoid", phrases),
    ("emphasize", phrases),
    ("emojiPolicy", .withDefault (.oneOf aiToneEmojiPolicies) (.str "minimal")),
    ("brandVoiceSample", .optional (.string 0 (some 2000))),
    ("customInstructions", .optional (.string 0 (some 2000)))] .strict

end WinBack.Tenant
