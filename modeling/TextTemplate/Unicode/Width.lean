import TextTemplate.Unicode.WidthTables

/-!
# Display width

The number of columns a text takes on a terminal. Most characters take none, one or two columns
whatever stands around them. Emoji sequences and script ligatures are measured as a whole, so
text is read from its end, and each character is measured by what begins right of it.
-/

namespace TextTemplate.Unicode

/-- What the text right of a character begins with, as far as that can change the character. -/
inductive Start where
  /-- Nothing that matters. -/
  | plain
  | lineFeed
  | emoji
  | skinTone
  /-- One regional indicator. -/
  | flagLetter
  /-- Two regional indicators or more. -/
  | flagLetters
  /-- A joiner, then an emoji. -/
  | joinedEmoji
  /-- An enclosing keycap, then a joiner and an emoji. -/
  | joinedKeycap
  /-- Regional indicators, then a joiner and an emoji. -/
  | joinedFlagLetter | joinedFlagPair | joinedFlagPairAndLetter
  /-- Tag characters that may belong to a flag, then a joiner and an emoji. -/
  | tagEnd | tagLetters (count : Fin 7) | tagDigits (count : Fin 4)
  | alef | lamed | buginese | bugineseVowel | tifinagh | tifinaghJoiner | lisuTone | orkhon | khmer
deriving DecidableEq, Repr

/-- What stands right of a character: how the text begins, after the variation selectors and the
joiner written in front of it. -/
structure Ahead where
  start : Start := .plain
  /-- U+FE0F is in front. -/
  emojiStyle : Bool := false
  /-- U+FE0E is in front. -/
  textStyle : Bool := false
  /-- U+200D is in front. -/
  joiner : Bool := false
deriving DecidableEq, Repr

/-- Scripts whose letters keep a variation selector written before them. -/
def Start.isLigature : Start → Bool
  | .alef | .lamed | .buginese | .bugineseVowel | .tifinagh | .tifinaghJoiner | .lisuTone
  | .orkhon | .khmer => true
  | _ => false

/-- Scripts whose ligatures form across joiners and ignorable marks. -/
def Start.isTransparent (s : Start) : Bool :=
  s.isLigature && s != .alef

def Start.isJoined (s : Start) : Bool :=
  s == .joinedEmoji || s == .joinedKeycap

/-- Puts U+FE0F in front. -/
def Ahead.withEmojiStyle (a : Ahead) : Ahead :=
  if a.start.isLigature || a.start.isJoined then { a with emojiStyle := true }
  else { emojiStyle := true }

/-- Puts U+FE0E in front. -/
def Ahead.withTextStyle (a : Ahead) : Ahead :=
  if a.start.isLigature then { a with textStyle := true } else { textStyle := true }

/-- Drops U+FE0F from the front, where it had no effect. -/
def Ahead.withoutEmojiStyle (a : Ahead) : Ahead :=
  if a.start.isLigature then { a with emojiStyle := false } else {}

/-! ### Single characters -/

def within (first last : Nat) (c : Char) : Bool :=
  first ≤ c.toNat && c.toNat ≤ last

def isRegionalIndicator : Char → Bool := within 0x1F1E6 0x1F1FF

def isSkinTone : Char → Bool := within 0x1F3FB 0x1F3FF

def Start.ofChar (c : Char) : Start :=
  if c = '\u05dc' then .lamed
  else if alefLetters.contains c then .alef
  else if khmerConsonants.contains c then .khmer
  else if c = '\u1a10' then .buginese
  else if tifinaghConsonants.contains c then .tifinagh
  else if within 0xA4FC 0xA4FD c then .lisuTone
  else if c.toNat = 0x10C03 then .orkhon
  else if isRegionalIndicator c then .flagLetter
  else if isSkinTone c then .skinTone
  else if emojiPresentation.contains c then .emoji
  else .plain

/-- The width of a character that forms no sequence with what follows. -/
def charWidth (c : Char) : Nat :=
  if c = '\u17a4' then 2
  else if c = '\u17d8' then 3
  else if zeroWidth.contains c then 0
  else if wide.contains c then 2
  else 1

def measureAlone (c : Char) : Int × Ahead :=
  (charWidth c, { start := .ofChar c })

/-! ### Sequences -/

/-- The columns that `c` adds by joining what follows, and how the joined text begins. -/
def joinWidth? (c : Char) (next : Ahead) : Option (Int × Start) :=
  match next.start with
  | .alef =>
    if lamLetters.contains c then some (0, .plain)
    else if zeroWidth.contains c && !nonJoining.contains c then some (0, .alef)
    else none
  | .lamed => if next.joiner && c = '\u05d0' then some (0, .plain) else none
  | .khmer => if c = '\u17d2' then some (-1, .plain) else none
  | .buginese => if next.joiner && c = '\u1a17' then some (0, .bugineseVowel) else none
  | .bugineseVowel => if c = '\u1a15' then some (0, .plain) else none
  | .tifinagh =>
    if c = '\u2d7f' then some (1, .tifinaghJoiner)
    else if next.joiner && tifinaghConsonants.contains c then some (0, .plain)
    else none
  | .tifinaghJoiner => if tifinaghConsonants.contains c then some (-1, .plain) else none
  | .lisuTone => if within 0xA4F8 0xA4FB c then some (0, .plain) else none
  | .orkhon => if next.joiner && c.toNat = 0x10C32 then some (0, .plain) else none
  | .emoji => if c = '\u200d' then some (0, .joinedEmoji) else none
  | .skinTone =>
    if emojiModifierBase.contains c then some (0, .emoji)
    else if c = '\u200d' then some (0, .joinedEmoji)
    else none
  | .flagLetter => if isRegionalIndicator c then some (1, .flagLetters) else none
  | .flagLetters =>
    if isRegionalIndicator c then some (1, .flagLetters)
    else if c = '\u200d' then some (0, .joinedEmoji)
    else none
  | .joinedEmoji =>
    if c = '\u20e3' then some (0, .joinedKeycap)
    else if isRegionalIndicator c then some (1, .joinedFlagLetter)
    else if isSkinTone c then some (0, .skinTone)
    else if c.toNat = 0xE007F then some (0, .tagEnd)
    else if emojiPresentation.contains c then some (0, .emoji)
    else none
  | .joinedFlagLetter => if isRegionalIndicator c then some (-1, .joinedFlagPair) else none
  | .joinedFlagPair =>
    if isRegionalIndicator c then some (3, .joinedFlagPairAndLetter)
    else if c = '\u200d' then some (0, .joinedEmoji)
    else none
  | .joinedFlagPairAndLetter =>
    if isRegionalIndicator c then some (-1, .joinedFlagPair)
    else if c = '\u200d' then some (0, .joinedEmoji)
    else none
  | .tagEnd => tagWidth? 0 c
  | .tagLetters k =>
    if k.val ≥ 3 && c.toNat = 0x1F3F4 then some (0, .emoji) else tagWidth? k c
  | .tagDigits k =>
    if c.toNat = 0x1F3F4 then if k = 3 then some (0, .emoji) else none
    else if within 0xE0030 0xE0039 c && k.val < 3 then some (0, .tagDigits (k + 1))
    else none
  | .plain | .lineFeed | .joinedKeycap => none
where
  /-- A tag character in front of `k` tag letters. -/
  tagWidth? (k : Fin 7) (c : Char) : Option (Int × Start) :=
    if within 0xE0061 0xE007A c && k.val < 6 then some (0, .tagLetters (k + 1))
    else if within 0xE0030 0xE0039 c && k.val < 5 then some (0, .tagDigits 1)
    else none

/-- A character in front of text on which U+FE0F has no say. -/
def measurePlain (c : Char) (next : Ahead) : Int × Ahead :=
  if c.toNat ≤ 0xA0 then
    if c = '\n' then (0, { start := .lineFeed })
    else if c = '\r' && next.start == .lineFeed then (0, {})
    else (1, {})
  else if c = '\ufe0f' then (0, next.withEmojiStyle)
  else if c = '\ufe0e' then (0, next.withTextStyle)
  else if next.textStyle && textBase.contains c then (1, {})
  else
    let next := { next with textStyle := false }
    if next.start.isTransparent && c = '\u200d' then (0, { next with joiner := true })
    else if next.start.isTransparent && ignorableMark.contains c then (0, next)
    else match joinWidth? c next with
      | some (width, start) => (width, { start })
      | none => measureAlone c

/-- The columns that `c` adds in front of `next`, and what then stands right of what precedes. -/
def measure (c : Char) (next : Ahead) : Int × Ahead :=
  if next.emojiStyle then
    if emojiBase.contains c then (if next.start.isJoined then 0 else 2, { start := .emoji })
    else measurePlain c next.withoutEmojiStyle
  else measurePlain c next

def displayWidth (cs : List Char) : Nat :=
  (cs.foldr (fun c (total, next) => let (width, here) := measure c next; (total + width, here))
    ((0 : Int), ({} : Ahead))).1.toNat

end TextTemplate.Unicode
