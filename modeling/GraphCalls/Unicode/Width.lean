/-
How wide text is on a screen of fixed columns.

East Asian wide and full width characters take two columns; marks that stand
on the character before them and invisible characters take none. Some
characters draw together: a picture with a skin tone or with other pictures
joined to it takes two columns, and a few scripts join letters into one. Text
is measured from its end, since what a character takes depends on what
follows it.
-/
import GraphCalls.Unicode.Emoji
import GraphCalls.Unicode.Joining

namespace GraphCalls
namespace Unicode

/-- Characters that take two columns. -/
def wideCharacters : CodeSet := CodeSet.ofText "
1100-115F 231A-231B 2329-232A 23E9-23EC 23F0 23F3 25FD-25FE 2614-2615 2630-2637 2648-2653 267F
268A-268F 2693 26A1 26AA-26AB 26BD-26BE 26C4-26C5 26CE 26D4 26EA 26F2-26F3 26F5 26FA 26FD 2705
270A-270B 2728 274C 274E 2753-2755 2757 2795-2797 27B0 27BF 2B1B-2B1C 2B50 2B55 2E80-2E99
2E9B-2EF3 2F00-2FD5 2FF0-3029 3030-303E 3041-3096 309B-30FF 3105-312F 3131-3163 3165-318E
3190-31E5 31EF-321E 3220-3247 3250-A48C A490-A4C6 A960-A97C AC00-D7A3 F900-FAFF FE10-FE19
FE30-FE52 FE54-FE66 FE68-FE6B FF01-FF60 FFE0-FFE6 16FE0-16FE3 16FF2-16FF6 17000-18CD5
18CFF-18D1E 18D80-18DF2 1AFF0-1AFF3 1AFF5-1AFFB 1AFFD-1AFFE 1B000-1B122 1B132 1B150-1B152 1B155
1B164-1B167 1B170-1B2FB 1D300-1D356 1D360-1D376 1F004 1F0CF 1F18E 1F191-1F19A 1F200-1F202
1F210-1F23B 1F240-1F248 1F250-1F251 1F260-1F265 1F300-1F320 1F32D-1F335 1F337-1F37C 1F37E-1F393
1F3A0-1F3CA 1F3CF-1F3D3 1F3E0-1F3F0 1F3F4 1F3F8-1F43E 1F440 1F442-1F4FC 1F4FF-1F53D 1F54B-1F54E
1F550-1F567 1F57A 1F595-1F596 1F5A4 1F5FB-1F64F 1F680-1F6C5 1F6CC 1F6D0-1F6D2 1F6D5-1F6D8
1F6DC-1F6DF 1F6EB-1F6EC 1F6F4-1F6FC 1F7E0-1F7EB 1F7F0 1F90C-1F93A 1F93C-1F945 1F947-1F9FF
1FA70-1FA7C 1FA80-1FA8A 1FA8E-1FAC6 1FAC8 1FACD-1FADC 1FADF-1FAEA 1FAEF-1FAF8 20000-2FFFD
30000-3FFFD"

/-- Characters beside the nonspacing marks that take no column. -/
def emptyCharacters : CodeSet := CodeSet.ofText "
AD 605 61C 70F 890-891 8E2 9BE 9D7 B3E B57 BBE BD7 CC0 CC2 CC7-CC8 CCA-CCB CD5-CD6 D3E D4E D57
DCF DDF 1160-11FF 1715 1734 180E 1B35 1B3B 1B3D 1B43-1B44 1BAA 1BF2-1BF3 200B-200F 202A-202E
2060-206F 302E-302F 3164 A8FA A953 A9C0 D7B0-D7C6 D7CB-D7FB FEFF FF9E-FFA0 FFF0-FFF8 111C0
111C2-111C3 11235 1133E 1134D 11357 113B8 113C2 113C5 113C7-113C9 113CF 113D1 114B0 114BD 115AF
116B6 11930 1193D 1193F 11941 11A84-11A89 11D46 11F02 11F41 16FF0-16FF1 1BCA0-1BCA3 1D165-1D166
1D16D-1D17A E0000-E00FF E01F0-E0FFF"

/-- The mark that joins consonants of Tifinagh; alone it is drawn. -/
def isConsonantJoiner (c : Char) : Bool := c.toNat == 0x2D7F

/-- The columns that a character takes on its own. -/
def charWidth (c : Char) : Nat :=
  if c.toNat ≤ 0xA0 then 1
  else if c.toNat = 0x17D8 then 3
  else if c.toNat = 0x17A4 then 2
  else if isConsonantJoiner c then 1
  else if wideCharacters.contains c then 2
  else if isNonspacing c || emptyCharacters.contains c then 0
  else 1

/-! ## What follows a character -/

/-- Ends of letters that are drawn as one. -/
inductive JoinedLetter where
  /-- An Arabic alef, after which a lam may come. -/
  | alef
  | hebrewLamed
  | bugineseYa
  /-- A Buginese vowel sign with the letter that is joined to it. -/
  | bugineseSign
  | tifinagh
  /-- A consonant of Tifinagh with the joiner before it. -/
  | tifinaghJoined
  /-- A lower tone of Lisu. -/
  | lisuTone
  | oldTurkic
  /-- A Khmer letter that may stand below another. -/
  | khmer
  | kiratRaiE
  | kiratRaiAi
deriving DecidableEq

/-- What stands right of a character, as far as it matters for its width. -/
inductive Follower where
  /-- Nothing that would be drawn together with it. -/
  | plain
  | lineBreak
  | picture
  | skinTone
  /-- One flag letter. -/
  | flagLetter
  | flagLetters
  /-- A joiner and a picture. -/
  | joinedPicture
  /-- The frame of a key, a joiner and a picture. -/
  | joinedKey
  /-- An odd or even number of flag letters, then a joiner and a picture. -/
  | joinedFlag (even : Bool)
  /-- Tags that spell a flag, then a joiner and a picture: how many letters
  and how many digits they start with. -/
  | joinedTags (letters digits : Nat)
  /-- A letter that may be drawn as one with those before it, and whether a
  joiner stands before it. -/
  | letter (l : JoinedLetter) (joiner : Bool)
deriving DecidableEq

/-- The style that a selector asks for. -/
inductive Style where
  | none
  | picture
  | text
  /-- Quotation marks as wide as ideographs. -/
  | wide
deriving DecidableEq

/-- What stands right of a character. -/
structure Following where
  follower : Follower
  style : Style
deriving DecidableEq

namespace Following

def plain : Following := ⟨.plain, .none⟩

def ofFollower (f : Follower) : Following := ⟨f, .none⟩

def ofLetter (l : JoinedLetter) : Following := ⟨.letter l false, .none⟩

/-- Puts a selector before what follows. Only what draws letters together, or
a joined picture for the picture style, is still seen behind it. -/
def select (s : Style) (f : Following) : Following :=
  match f.follower, s with
  | .letter l j, s => ⟨.letter l j, s⟩
  | .joinedPicture, .picture => ⟨.joinedPicture, .picture⟩
  | .joinedKey, .picture => ⟨.joinedKey, .picture⟩
  | _, s => ⟨.plain, s⟩

/-- What follows when its selector asks in vain. -/
def unselected (f : Following) : Following :=
  match f.style, f.follower with
  | .none, _ => f
  | _, .letter l j => ⟨.letter l j, .none⟩
  | _, _ => plain

end Following

/-! ## Scripts that draw letters as one -/

def isLam (c : Char) : Bool :=
  let n := c.toNat
  n == 0x644 || (0x6B5 ≤ n && n ≤ 0x6B8) || n == 0x76A || n == 0x8A6 || n == 0x8C7

def alefs : CodeSet := CodeSet.ofText "622-623 625 627 671-673 675 773-774 870-882"

def isTifinagh (c : Char) : Bool :=
  let n := c.toNat
  (0x2D31 ≤ n && n ≤ 0x2D65) || n == 0x2D6F

/-- Khmer letters that may stand below another. -/
def khmerBelow : CodeSet := CodeSet.ofText
  "1780-1782 1784-1787 1789-178C 178E-1793 1795-1798 179B-179D 17A0 17A2 17A7 17AB-17AC 17AF"

def isJoiner (c : Char) : Bool := c.toNat == 0x200D

/-- Marks that are not drawn; letters are drawn together across them. -/
def unseenMarks : CodeSet := CodeSet.ofText "34F 17B4-17B5 180B-180D 180F FE00-FE0F E0100-E01EF"

/-- The letter that a character ends a joined drawing with. -/
def joinedLetter? (c : Char) : Option JoinedLetter :=
  let n := c.toNat
  if n = 0x5DC then some .hebrewLamed
  else if alefs.contains c then some .alef
  else if khmerBelow.contains c then some .khmer
  else if n = 0x1A10 then some .bugineseYa
  else if isTifinagh c then some .tifinagh
  else if n = 0xA4FC ∨ n = 0xA4FD then some .lisuTone
  else if n = 0x10C03 then some .oldTurkic
  else if n = 0x16D67 then some .kiratRaiE
  else if n = 0x16D68 then some .kiratRaiAi
  else none

/-- What a character adds to the width, and what it is for the one before it. -/
abbrev Step := Int × Following

/-- A character before a letter that may be drawn as one with it. -/
def beforeLetter? (c : Char) (l : JoinedLetter) (joiner : Bool) : Option Step :=
  let n := c.toNat
  if l = .alef then
    if isLam c then some (0, .plain)
    else if isTransparent c && charWidth c == 0 then some (0, .ofLetter .alef)
    else none
  else if isJoiner c then some (0, ⟨.letter l true, .none⟩)
  else if unseenMarks.contains c then some (0, ⟨.letter l joiner, .none⟩)
  else
    match l with
    | .hebrewLamed => if joiner && n == 0x5D0 then some (0, .plain) else none
    | .bugineseYa => if joiner && n == 0x1A17 then some (0, .ofLetter .bugineseSign) else none
    | .bugineseSign => if n = 0x1A15 then some (0, .plain) else none
    | .tifinagh =>
      if isConsonantJoiner c then some (1, .ofLetter .tifinaghJoined)
      else if joiner && isTifinagh c then some (0, .plain)
      else none
    | .tifinaghJoined => if isTifinagh c then some (-1, .plain) else none
    | .lisuTone => if 0xA4F8 ≤ n ∧ n ≤ 0xA4FB then some (0, .plain) else none
    | .oldTurkic => if joiner && n == 0x10C32 then some (0, .plain) else none
    | .khmer => if n = 0x17D2 then some (-1, .plain) else none
    | .kiratRaiE =>
      if n = 0x16D63 ∨ n = 0x16D69 then some (0, .plain)
      else if n = 0x16D67 then some (0, .ofLetter .kiratRaiAi)
      else if n = 0x16D68 then some (1, .ofLetter .kiratRaiAi)
      else none
    | .kiratRaiAi => if n = 0x16D63 then some (0, .plain) else none
    | .alef => none

/-! ## Pictures -/

def isTagLetter (c : Char) : Bool := 0xE0061 ≤ c.toNat && c.toNat ≤ 0xE007A

def isTagDigit (c : Char) : Bool := 0xE0030 ≤ c.toNat && c.toNat ≤ 0xE0039

/-- A character before tags that spell a flag: a region is three to six
letters, or ends in three digits. -/
def beforeTags? (c : Char) (letters digits : Nat) : Option Step :=
  if isTagLetter c && digits == 0 && decide (letters < 6) then
    some (0, .ofFollower (.joinedTags (letters + 1) 0))
  else if isTagDigit c && decide (letters < 5) && decide (digits < 3) then
    some (0, .ofFollower (.joinedTags letters (digits + 1)))
  else if c.toNat == 0x1F3F4 && (decide (digits = 3) || (digits == 0 && decide (3 ≤ letters))) then
    some (0, .ofFollower .picture)
  else none

/-- A character before a picture, a flag or what is joined to one. -/
def beforePicture? (c : Char) (f : Follower) : Option Step :=
  match f with
  | .skinTone =>
    if takesSkinTone c then some (0, .ofFollower .picture)
    else if isJoiner c then some (0, .ofFollower .joinedPicture)
    else none
  | .flagLetter => if isFlagLetter c then some (1, .ofFollower .flagLetters) else none
  | .flagLetters =>
    if isFlagLetter c then some (1, .ofFollower .flagLetters)
    else if isJoiner c then some (0, .ofFollower .joinedPicture)
    else none
  | .picture => if isJoiner c then some (0, .ofFollower .joinedPicture) else none
  | .joinedPicture =>
    if c.toNat = 0x20E3 then some (0, .ofFollower .joinedKey)
    else if isFlagLetter c then some (1, .ofFollower (.joinedFlag false))
    else if isSkinTone c then some (0, .ofFollower .skinTone)
    else if c.toNat = 0xE007F then some (0, .ofFollower (.joinedTags 0 0))
    else if isPicture c then some (0, .ofFollower .picture)
    else none
  | .joinedFlag even =>
    if isFlagLetter c then some (if even then 3 else -1, .ofFollower (.joinedFlag !even))
    else if even && isJoiner c then some (0, .ofFollower .joinedPicture)
    else none
  | .joinedTags letters digits => beforeTags? c letters digits
  | _ => none

/-! ## Text -/

/-- A character that nothing after it is drawn together with. -/
def alone (c : Char) : Step :=
  (charWidth c,
    if c = '\n' then .ofFollower .lineBreak
    else if isSkinTone c then .ofFollower .skinTone
    else if isFlagLetter c then .ofFollower .flagLetter
    else if isPicture c then .ofFollower .picture
    else (joinedLetter? c).elim .plain Following.ofLetter)

/-- The style that a selector asks for. -/
def selector? (c : Char) : Option Style :=
  if c.toNat = 0xFE0F then some .picture
  else if c.toNat = 0xFE0E then some .text
  else if c.toNat = 0xFE01 then some .wide
  else none

/-- A character before a selector that it follows, if it does. -/
def obey? (c : Char) (f : Following) : Option Step :=
  match f.style with
  | .none => none
  | .picture =>
    if takesPictureStyle c then
      some (if f.follower = .joinedPicture ∨ f.follower = .joinedKey then 0 else 2,
        .ofFollower .picture)
    else none
  | .text => if takesTextStyle c then some (1, .plain) else none
  | .wide =>
    if c.toNat ∈ [0x2018, 0x2019, 0x201C, 0x201D] then some (2, .plain) else none

/-- What a character adds to the width of what follows it. -/
def stepWidth (c : Char) (f : Following) : Step :=
  match obey? c f with
  | some s => s
  | none =>
    let f := f.unselected
    if c.toNat ≤ 0xA0 then
      (if c = '\r' ∧ f.follower = .lineBreak then 0 else 1,
        if c = '\n' then .ofFollower .lineBreak else .plain)
    else
      match selector? c with
      | some s => (0, f.select s)
      | none =>
        let together := match f.follower with
          | .letter l joiner => beforeLetter? c l joiner
          | other => beforePicture? c other
        together.getD (alone c)

/-- The columns that a line of text takes. -/
def width (cs : List Char) : Nat :=
  (cs.foldr (fun c (sum : Step) =>
    let (added, following) := stepWidth c sum.2
    (sum.1 + added, following)) (0, .plain)).1.toNat

end Unicode
end GraphCalls
