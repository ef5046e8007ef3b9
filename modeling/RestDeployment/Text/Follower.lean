import RestDeployment.Text.Emoji
import RestDeployment.Text.GraphemeExtend
import RestDeployment.Text.Ignorable

/-!
# Characters that merge with what follows

Some characters have no place of their own: a lam and an alef are written as one
letter, a person and a skin tone as one picture, two letters of a region as one
flag.  Whether a character merges depends on what follows it, so a line is read
from its end, and a `Follower` is what the part that has been read looks like from
the character in front of it.  `Follower.merge?` says what becomes of a character
that merges, and `Follower.ofChar` what one looks like that does not.
-/

namespace RestDeployment.Text

/-- What follows a character, as far as the character may merge with it.  The
joiner is the character U+200D. -/
inductive Follower where
  /-- Nothing to merge with. -/
  | other
  /-- An Arabic alef. -/
  | alef
  /-- A Hebrew lamed, perhaps after a joiner. -/
  | lamed (joined : Bool)
  /-- A Buginese ya, perhaps after a joiner. -/
  | ya (joined : Bool)
  /-- A Buginese ya after a joiner and the vowel sign i. -/
  | vowelAndYa
  /-- A Tifinagh consonant, perhaps after a joiner. -/
  | tifinagh (joined : Bool)
  /-- A Tifinagh consonant after the consonant joiner of that script. -/
  | tifinaghPair
  /-- A Lisu tone letter that ends a combination. -/
  | lisuTone
  /-- An Old Turkic i, perhaps after a joiner. -/
  | orkhonI (joined : Bool)
  /-- A Khmer letter that has a subscript form. -/
  | khmer
  /-- A Kirat Rai vowel sign e. -/
  | kiratE
  /-- A Kirat Rai vowel sign ai. -/
  | kiratAi
  /-- A picture. -/
  | picture
  /-- A skin tone. -/
  | skinTone
  /-- A letter of a region. -/
  | regionLetter
  /-- Two letters of a region or more. -/
  | regionLetters
  /-- A picture after a joiner. -/
  | joinedPicture
  /-- An enclosing keycap before a joiner and a picture. -/
  | joinedKeycap
  /-- A letter of a region before a joiner and a picture. -/
  | joinedRegionLetter
  /-- Letters of a region in pairs before a joiner and a picture. -/
  | joinedRegions
  /-- Pairs and a letter of a region before a joiner and a picture. -/
  | joinedRegionsAndLetter
  /-- The end of a tagged flag before a joiner and a picture: so many tag letters,
  or so many tag digits after letters that no longer matter. -/
  | joinedTags (letters digits : Nat)
deriving DecidableEq

namespace Follower

/-! ### Letters -/

/-- Whether a follower is a letter that merges across what a display passes over.
The Kirat Rai vowel signs merge only with what stands next to them. -/
def isLetter : Follower → Bool
  | .lamed _ | .ya _ | .vowelAndYa | .tifinagh _ | .tifinaghPair | .lisuTone | .orkhonI _
  | .khmer => true
  | _ => false

/-- A letter after a joiner. -/
def join : Follower → Follower
  | .lamed _ => .lamed true
  | .ya _ => .ya true
  | .tifinagh _ => .tifinagh true
  | .orkhonI _ => .orkhonI true
  | f => f

/-- Whether a character is an Arabic lam. -/
def isLam (c : Char) : Bool :=
  c = '\u0644' || '\u06b5' ≤ c && c ≤ '\u06b8' || c = '\u076a' || c = '\u08a6' || c = '\u08c7'

/-- Whether a character is an Arabic alef. -/
def isAlef (c : Char) : Bool :=
  inRanges [(0x622, 0x623), (0x625, 0x625), (0x627, 0x627), (0x671, 0x673), (0x675, 0x675),
    (0x773, 0x774), (0x870, 0x882)] c

/-- Whether Arabic letters join through a character.  The Tifinagh joiner has a column
of its own and parts them. -/
def isTransparent (c : Char) : Bool :=
  c ≠ '\u2d7f' && (inRanges nonspacingRanges c || inRanges formatRanges c)

/-- Whether a character is a Tifinagh consonant. -/
def isTifinagh (c : Char) : Bool := '\u2d31' ≤ c && c ≤ '\u2d65' || c = '\u2d6f'

/-- Whether a character is a Khmer letter that has a subscript form. -/
def isKhmer (c : Char) : Bool :=
  inRanges [(0x1780, 0x1782), (0x1784, 0x1787), (0x1789, 0x178c), (0x178e, 0x1793),
    (0x1795, 0x1798), (0x179b, 0x179d), (0x17a0, 0x17a0), (0x17a2, 0x17a2), (0x17a7, 0x17a7),
    (0x17ab, 0x17ac), (0x17af, 0x17af)] c

/-- Whether a character is a mark that never stands between a letter and what it
merges with: a display passes over it. -/
def isUnseenMark (c : Char) : Bool :=
  inRanges [(0x34f, 0x34f), (0x17b4, 0x17b5), (0x180b, 0x180d), (0x180f, 0x180f),
    (0xfe00, 0xfe0f), (0xe0100, 0xe01ef)] c

/-- The columns of a character that merges with a letter after it, and what the two
look like from the front. -/
def mergeLetter? : Follower → Char → Option (Int × Follower)
  | .alef, c => if isLam c then some (0, .other) else if isTransparent c then some (0, .alef) else none
  | .lamed true, '\u05d0' => some (0, .other)
  | .ya true, '\u1a17' => some (0, .vowelAndYa)
  | .vowelAndYa, '\u1a15' => some (0, .other)
  | .tifinagh joined, c =>
    if c = '\u2d7f' then some (1, .tifinaghPair)
    else if joined && isTifinagh c then some (0, .other)
    else none
  | .tifinaghPair, c => if isTifinagh c then some (-1, .other) else none
  | .lisuTone, c => if '\ua4f8' ≤ c ∧ c ≤ '\ua4fb' then some (0, .other) else none
  | .orkhonI true, c => if c.toNat = 0x10c32 then some (0, .other) else none
  | .khmer, '\u17d2' => some (-1, .other)
  | .kiratE, c =>
    match c.toNat with
    | 0x16d63 => some (0, .other)
    | 0x16d67 => some (0, .kiratAi)
    | 0x16d68 => some (1, .kiratE)
    | 0x16d69 => some (0, .other)
    | _ => none
  | .kiratAi, c => if c.toNat = 0x16d63 then some (0, .other) else none
  | _, _ => none

/-! ### Pictures -/

/-- Whether a character is a letter of a region; two of them are a flag. -/
def isRegionLetter (c : Char) : Bool := 0x1f1e6 ≤ c.toNat && c.toNat ≤ 0x1f1ff

/-- Whether a character is a skin tone. -/
def isSkinTone (c : Char) : Bool := 0x1f3fb ≤ c.toNat && c.toNat ≤ 0x1f3ff

/-- The tags of a flag after one more of them.  Read from its end, the code of a
region is at most six letters, or three digits with at most four letters behind
them; the black flag comes before three characters at least. -/
def mergeTag? (letters digits : Nat) (c : Char) : Option (Int × Follower) :=
  if digits = 0 ∧ letters < 6 ∧ 0xe0061 ≤ c.toNat ∧ c.toNat ≤ 0xe007a then
    some (0, .joinedTags (letters + 1) 0)
  else if letters ≤ 4 ∧ digits < 3 ∧ 0xe0030 ≤ c.toNat ∧ c.toNat ≤ 0xe0039 then
    some (0, .joinedTags letters (digits + 1))
  else if (digits = 3 ∨ digits = 0 ∧ 3 ≤ letters) ∧ c.toNat = 0x1f3f4 then some (0, .picture)
  else none

/-- The columns of a character that merges with a picture after it, and what the two
look like from the front. -/
def mergePicture? (f : Follower) (c : Char) : Option (Int × Follower) :=
  match f with
  | .picture => if c = '\u200d' then some (0, .joinedPicture) else none
  | .skinTone =>
    if c = '\u200d' then some (0, .joinedPicture)
    else if isModifierBase c then some (0, .picture)
    else none
  | .regionLetter => if isRegionLetter c then some (1, .regionLetters) else none
  | .regionLetters =>
    if c = '\u200d' then some (0, .joinedPicture)
    else if isRegionLetter c then some (1, .regionLetters)
    else none
  | .joinedPicture =>
    if c = '\u20e3' then some (0, .joinedKeycap)
    else if isRegionLetter c then some (1, .joinedRegionLetter)
    else if isSkinTone c then some (0, .skinTone)
    else if c.toNat = 0xe007f then some (0, .joinedTags 0 0)
    else if isPicture c then some (0, .picture)
    else none
  | .joinedRegionLetter => if isRegionLetter c then some (-1, .joinedRegions) else none
  | .joinedRegions =>
    if c = '\u200d' then some (0, .joinedPicture)
    else if isRegionLetter c then some (3, .joinedRegionsAndLetter)
    else none
  | .joinedRegionsAndLetter =>
    if c = '\u200d' then some (0, .joinedPicture)
    else if isRegionLetter c then some (-1, .joinedRegions)
    else none
  | .joinedTags letters digits => mergeTag? letters digits c
  | _ => none

/-! ### Single characters -/

/-- The columns of a character that merges with what follows it, and what the two
look like from the front. -/
def merge? (f : Follower) (c : Char) : Option (Int × Follower) :=
  if f.isLetter && c = '\u200d' then some (0, f.join)
  else if f.isLetter && isUnseenMark c then some (0, f)
  else (mergeLetter? f c).or (mergePicture? f c)

/-- What a character looks like that has not merged with anything. -/
def ofChar (c : Char) : Follower :=
  if isAlef c then .alef
  else if c = '\u05dc' then .lamed false
  else if c = '\u1a10' then .ya false
  else if isTifinagh c then .tifinagh false
  else if c = '\ua4fc' || c = '\ua4fd' then .lisuTone
  else if c.toNat = 0x10c03 then .orkhonI false
  else if isKhmer c then .khmer
  else if c.toNat = 0x16d67 then .kiratE
  else if c.toNat = 0x16d68 then .kiratAi
  else if isRegionLetter c then .regionLetter
  else if isSkinTone c then .skinTone
  else if isPicture c then .picture
  else .other

end Follower

end RestDeployment.Text
