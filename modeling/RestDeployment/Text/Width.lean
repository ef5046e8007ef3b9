import RestDeployment.Text.Follower
import RestDeployment.Text.WideForm

/-!
# Columns of a line

A line is measured in columns of a terminal.  A character has a width of its own,
but it may merge with what follows it, and a selector behind it may ask for another
form of it.  The line is therefore read from its end, and each character is placed
before a `Context`, which is what the rest of the line looks like from there.
-/

namespace RestDeployment.Text

/-! ### The width of a character on its own -/

/-- Whether a character joins the syllable block of the letter before it. -/
def joinsSyllable (c : Char) : Bool :=
  inRanges [(0x1160, 0x11ff), (0xd7b0, 0xd7c6), (0xd7cb, 0xd7fb)] c

/-- Whether a character is drawn over or around the one after it. -/
def isPrepended (c : Char) : Bool :=
  inRanges [(0x605, 0x605), (0x70f, 0x70f), (0x890, 0x891), (0x8e2, 0x8e2), (0xd4e, 0xd4e),
    (0xa8fa, 0xa8fa), (0x111c2, 0x111c3), (0x113d1, 0x113d1), (0x1193f, 0x1193f),
    (0x11941, 0x11941), (0x11a84, 0x11a89), (0x11d46, 0x11d46), (0x11f02, 0x11f02)] c

/-- The columns that a character takes on its own. -/
def charWidth (c : Char) : Nat :=
  if c ≤ '\u00a0' || c = '\u2d7f' then 1
  else if c = '\u115f' || c = '\u17a4' then 2
  else if c = '\u17d8' then 3
  else if isIgnorable c || extendsGrapheme c || joinsSyllable c || isPrepended c then 0
  else if inRanges wideRanges c then 2
  else 1

/-! ### The width of a character before others -/

/-- What follows a character: a character that it may merge with, and the selectors
in front of that. -/
structure Context where
  follower : Follower := .other
  /-- Whether a picture is asked for, by U+FE0F. -/
  picture : Bool := false
  /-- Whether text is asked for, by U+FE0E. -/
  text : Bool := false
  /-- Whether a wide quotation mark is asked for, by U+FE01. -/
  wideQuote : Bool := false

namespace Context

/-- Whether what follows keeps its form behind a selector. -/
def isStable (ctx : Context) : Bool := ctx.follower = .alef || ctx.follower.isLetter

/-- The context behind a selector: only a letter is still seen through it. -/
def behindSelector (ctx : Context) : Context := if ctx.isStable then ctx else {}

/-- Whether a picture that is asked for is joined to the one that follows. -/
def isJoined (ctx : Context) : Bool :=
  ctx.follower = .joinedPicture || ctx.follower = .joinedKeycap

/-- The context behind a request for a picture. -/
def askPicture (ctx : Context) : Context :=
  { (if ctx.isJoined then ctx else ctx.behindSelector) with picture := true }

/-- Whether a character is a quotation mark with a wide form. -/
def isQuotationMark (c : Char) : Bool :=
  c = '\u2018' || c = '\u2019' || c = '\u201c' || c = '\u201d'

/-- The columns of a character that takes its own place or merges, and the context
in front of it. -/
def place (f : Follower) (c : Char) : Int × Context :=
  match f.merge? c with
  | some (width, f) => (width, { follower := f })
  | none => (charWidth c, { follower := .ofChar c })

/-- The columns of a character in its context, and the context in front of it. -/
def before (ctx : Context) (c : Char) : Int × Context :=
  if ctx.picture && isPictureOnRequest c then
    (if ctx.isJoined then 0 else 2, { follower := .picture })
  else if c ≤ '\u00a0' then (1, {})
  else
    let ctx := if ctx.picture then { ctx.behindSelector with picture := false } else ctx
    if c = '\ufe0f' then (0, ctx.askPicture)
    else if c = '\ufe0e' then (0, { ctx.behindSelector with text := true })
    else if c = '\ufe01' then (0, { ctx.behindSelector with wideQuote := true })
    else if ctx.text && isTextOnRequest c then (1, {})
    else if ctx.wideQuote && isQuotationMark c then (2, {})
    else place ctx.follower c

end Context

/-- The columns that a line takes. -/
def lineWidth (line : String) : Nat :=
  (line.toList.foldr (fun c (width, ctx) =>
    let (columns, ctx) := Context.before ctx c
    (width + columns, ctx)) ((0 : Int), {})).1.toNat

end RestDeployment.Text
