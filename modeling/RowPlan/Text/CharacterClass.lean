import RowPlan.Text.Table

/-!
# Character classes

The classes of Unicode characters that tell apart the words, numerals and blanks of a text, and the
quoted form of texts, which escapes what does not show as itself. Each class is a table of runs for the
characters beyond ASCII and a plain test for ASCII.
-/

namespace RowPlan.Text

/-- Characters of the ASCII block, which never need a table. -/
def isAscii (c : Char) : Bool := c.toNat < 128

/-- Runs of letters beyond ASCII. -/
def letterRuns : List Nat := hexWords
  "2a 1 a 1 4 1 5 17 1 1f 1 1ca 4 c e 5 7 1 1 1 81 5 1 2 2 4 1 1 6 1 1 3 1 1 1 14 1 53 1 8b 8 
   a6 1 26 2 1 6 29 47 1b 4 4 2d 2b 23 2 1 63 1 1 f 2 7 2 a 3 2 1 10 1 1 1e 1d 59 b 1 18 21 9 
   2 4 1 5 16 4 1 9 1 3 1 17 19 7 b 5 18 1 6 11 2a 3a 36 3 1 12 1 7 a f 10 4 8 2 2 2 16 1 7 1 
   1 3 4 3 1 10 1 d 2 1 3 e 2 a 1 8 6 4 2 2 16 1 7 1 2 1 2 1 2 1f 4 1 1 13 3 10 9 1 3 1 16 1 7 
   1 2 1 5 3 1 12 1 f 2 17 1 b 8 2 2 2 16 1 7 1 2 1 5 3 1 1e 2 1 3 f 1 11 1 1 6 3 3 1 4 3 2 1 
   1 1 2 3 2 3 3 3 c 16 1 34 8 1 3 1 17 1 10 3 1 1a 3 2 1 2 2 1e 1 4 8 1 3 1 17 1 a 1 5 3 1 1f 
   2 1 2 f 2 11 9 1 3 1 29 2 1 10 1 5 3 8 3 18 6 5 12 3 18 1 9 1 1 2 7 3a 30 1 2 c 7 3a 2 1 1 
   1 5 1 18 1 1 1 a 1 2 9 1 2 5 1 1 15 4 20 1 3f 8 1 24 1b 5 73 2b 14 1 10 6 4 4 3 1 3 2 7 3 4 
   d c 1 11 26 1 1 5 1 2 2b 1 14d 1 4 2 7 1 1 1 4 2 29 1 4 2 21 1 4 2 7 1 1 1 4 2 f 1 39 1 4 2 
   43 25 10 10 56 2 6 3 26c 2 11 1 1a 5 4b 6 8 7 12 d 13 e 12 e d 1 3 f 34 23 1 4 1 43 59 7 5 
   2 22 1 1 5 46 a 1f 31 1e 2 5 b 2c 4 1a 36 17 9 35 52 1 5d 2f 11 8 36 1e d 2 a 2c 1a 24 29 3 
   a 24 2 9 7 2b 2 3 29 4 1 6 1 2 3 1 5 c0 40 116 2 6 2 26 2 6 2 8 1 1 1 1 1 1 1 1f 2 35 1 7 1 
   1 3 3 1 7 3 4 2 6 4 d 5 3 1 7 74 1 d 1 10 d 65 1 4 1 2 a 1 1 3 5 6 1 1 1 1 1 1 4 1 b 2 4 5 
   5 4 1 34 2 a7b e5 6 4 3 2 c 26 1 1 5 1 2 38 7 1 10 17 9 7 1 7 1 7 1 7 1 7 1 7 1 7 1 7 50 1 
   1d5 2 2a 5 5 2 4 56 6 3 1 5a 1 4 5 2b 1 5e 11 20 30 10 200 19c0 40 568d 43 2e 2 10d 3 10 a 
   2 14 2f 10 1f 2 46 31 9 2 67 2 40 5 2 1 1 1 5 18 10 1 3 1 4 1 17 1d 34 e 32 3e 6 3 1 1 2 b 
   1c a 17 19 1d 7 2f 1c 1 10 5 1 a a 5 1 29 17 3 1 8 14 17 3 1 3 32 1 1 3 2 2 5 2 1 1 1 18 3 
   2 b 7 3 c 6 2 6 2 6 9 7 1 7 1 2b 1 e 6 73 1d 2ba4 c 17 4 31 2104 16e 2 6a 26 7 c 5 5 1 1 a 
   1 d 1 5 1 1 1 2 1 2 1 6c 21 16b 12 40 2 36 28 c 74 5 1 87 24 1a 6 1a b 59 3 6 2 6 2 6 2 3 
   23 c 1 1a 1 13 1 2 1 f 2 e 22 7b 185 1d 3 31 2f 20 d 14 1 8 6 26 a 1e 2 24 4 8 30 9e 12 24 
   4 24 4 28 8 34 c b 1 f 1 7 1 2 1 b 1 f 1 7 1 2 43 137 9 16 a 8 18 6 1 2a 1 9 45 6 2 1 1 2c 
   1 2 3 1 2 17 a 17 9 1f 41 13 1 2 a 16 a 1a 46 38 6 2 40 1 f 4 1 3 1 1d 2a 1d 3 1d 23 8 1 1c 
   1b 36 a 16 a 13 d 12 6e 49 37 33 d 33 d 24 15c 2a 6 2 4e 1d a 1 8 16 2a 12 2e 15 1b 17 c 35 
   39 2 2 1 d 2d 20 19 1a 24 1d 1 2 1 8 23 3 1 c 30 e 4 15 1 1 1 23 12 1 19 54 7 1 1 1 4 1 f 1 
   a 7 2f 26 8 2 2 2 16 1 7 1 2 1 5 3 1 12 1 c 5 9e 35 12 4 14 3 1e 30 14 2 1 1 b8 2f 29 4 24 
   30 14 1 3b 2b d 1 47 1b 25 7 b9 2c 74 40 1f 8 2 1 2 8 1 2 1 18 f 1 1 1 5e 8 2 27 10 1 1 1 
   1c 1 a 28 7 1 15 1 b 2e 13 1 12 49 107 9 1 25 11 1 31 1e 70 7 1 2 1 26 15 1 19 6 1 2 1 20 e 
   1 147 13 bd 1 4f 39a e6 c4 a4c 61 f 42f fd1 247 21b9 239 7 1f 11 4f 11 1e 12 30 10 4 1f 15 
   5 13 2b0 40 80 4b 5 1 42 d 40 2 1 1 1c 17f8 8 4d6 2a 9 22e7 4 1 7 1 2 1 123 2d 3 11 4 8 18c 
   904 6b 5 d 3 9 7 a 1766 55 1 47 1 2 2 1 2 2 2 4 1 c 1 1 1 7 1 41 1 4 2 8 1 7 1 1c 1 4 1 5 1 
   1 3 7 1 154 2 19 1 19 1 1f 1 19 1 1f 1 19 1 1f 1 19 1 1f 1 19 1 8 734 1f 1e1 2d a 7 10 1 
   141 1e 12 2c 4f4 7 1 4 1 2 1 f 1 c5 3b 44 7 1 4b4 4 1 1b 1 2 1 1 2 1 1 a 1 4 1 1 1 1 6 1 4 
   1 1 1 1 1 1 3 1 2 1 1 2 1 1 1 1 1 1 1 1 1 1 2 1 1 2 4 1 7 1 4 1 4 1 1 1 a 1 11 5 3 1 5 1 11 
   1144 a6e0 20 1039 7 de 2 1682 e 1d31 c1f 21e 5e2 134b"

/-- Runs of letters and of every kind of numeral beyond ASCII. -/
def wordRuns : List Nat := hexWords
  "2a 1 7 2 1 1 3 2 1 3 1 17 1 1f 1 1ca 4 c e 5 7 1 1 1 81 5 1 2 2 4 1 1 6 1 1 3 1 1 1 14 1 53 
   1 8b 8 a6 1 26 2 1 6 29 47 1b 4 4 2d 2b 15 a 4 2 1 63 1 1 f 2 7 f 2 1 10 1 1 1e 1d 59 b 1 e 
   2b 9 2 4 1 5 16 4 1 9 1 3 1 17 19 7 b 5 18 1 6 11 2a 3a 36 3 1 12 1 7 a 4 a 1 10 4 8 2 2 2 
   16 1 7 1 1 3 4 3 1 10 1 d 2 1 3 4 c 2 6 2 1 8 6 4 2 2 16 1 7 1 2 1 2 1 2 1f 4 1 1 7 a 2 3 
   10 9 1 3 1 16 1 7 1 2 1 5 3 1 12 1 f 2 4 a 9 1 b 8 2 2 2 16 1 7 1 2 1 5 3 1 1e 2 1 3 4 a 1 
   7 b 1 1 6 3 3 1 4 3 2 1 1 1 2 3 2 3 3 3 c 16 1 15 d 12 8 1 3 1 17 1 10 3 1 1a 3 2 1 2 2 4 a 
   8 7 1 1 4 8 1 3 1 17 1 a 1 5 3 1 1f 2 1 2 4 a 1 2 11 9 1 3 1 29 2 1 10 1 5 3 1 a 4 13 1 6 5 
   12 3 18 1 9 1 1 2 7 1f a 11 30 1 2 c 7 9 a 27 2 1 1 1 5 1 18 1 1 1 a 1 2 9 1 2 5 1 1 9 a 2 
   4 20 1 1f 14 c 8 1 24 1b 5 73 2b 14 b 6 6 4 4 3 1 3 2 7 3 4 d c 1 1 a 6 26 1 1 5 1 2 2b 1 
   14d 1 4 2 7 1 1 1 4 2 29 1 4 2 21 1 4 2 7 1 1 1 4 2 f 1 39 1 4 2 43 e 14 3 10 10 56 2 6 3 
   26c 2 11 1 1a 5 4b 3 b 7 12 d 13 e 12 e d 1 3 f 34 23 1 4 1 3 a 6 a 16 a 6 59 7 5 2 22 1 1 
   5 46 a 1f 27 28 2 5 b 2c 4 1a 6 b 25 17 9 35 2b a 6 a d 1 5d 2f 11 8 3 a 29 1e d 38 1a 24 
   1c a 3 31 2 9 7 2b 2 3 29 4 1 6 1 2 3 1 5 c0 40 116 2 6 2 26 2 6 2 8 1 1 1 1 1 1 1 1f 2 35 
   1 7 1 1 3 3 1 7 3 4 2 6 4 d 5 3 1 7 73 2 2 6 5 b 6 d 65 1 4 1 2 a 1 1 3 5 6 1 1 1 1 1 1 4 1 
   b 2 4 5 5 4 1 1 3a 2d6 3c 4e 16 276 1e 46c e5 6 4 3 2 9 1 2 26 1 1 5 1 2 38 7 1 10 17 9 7 1 
   7 1 7 1 7 1 7 1 7 1 7 1 7 50 1 1d5 3 19 9 7 5 2 5 4 56 6 3 1 5a 1 4 5 2b 1 5e 3 4 a 20 30 
   10 20 a 1e 8 1 f 20 a 27 f 140 19c0 40 568d 43 2e 2 10d 3 1c 14 2f 10 1f 2 50 27 9 2 67 2 
   40 5 2 1 1 1 5 18 10 1 3 1 4 1 17 d 6 a 34 e 32 1c a 18 6 3 1 1 2 1 26 a 17 19 1d 7 2f 1c b 
   6 5 1 19 1 29 17 3 1 8 4 a 6 17 3 1 3 32 1 1 3 2 2 5 2 1 1 1 18 3 2 b 7 3 c 6 2 6 2 6 9 7 1 
   7 1 2b 1 e 6 73 d a 6 2ba4 c 17 4 31 2104 16e 2 6a 26 7 c 5 5 1 1 a 1 d 1 5 1 1 1 2 1 2 1 
   6c 21 16b 12 40 2 36 28 c 74 5 1 87 13 a 7 1a 6 1a b 59 3 6 2 6 2 6 2 3 23 c 1 1a 1 13 1 2 
   1 f 2 e 22 7b c 2d c 39 11 2 f4 1d 3 31 10 1b 4 24 9 1e 5 26 a 1e 2 24 4 8 1 5 2a 9e 2 a 6 
   24 4 24 4 28 8 34 c b 1 f 1 7 1 2 1 b 1 f 1 7 1 2 43 137 9 16 a 8 18 6 1 2a 1 9 45 6 2 1 1 
   2c 1 2 3 1 2 17 2 1f 2 26 8 9 30 13 1 2 5 21 4 1a 46 38 4 14 2 2f f 4 1 3 1 1d a 9 17 1f 1 
   20 20 8 1 1c 6 5 10 36 a 16 2 1b 5 1a 17 7 50 49 37 33 d 33 7 2a c a 126 1f 1 2a 6 2 4e 28 
   8 16 b 4 1b 12 2e 1c 14 17 c 35 1a 1e 1 2 2 1 d 2d 20 19 7 a 9 24 f a 4 1 2 1 8 23 3 1 c 30 
   e 4 b b 1 1 4 14 b 12 1 19 54 7 1 1 1 4 1 f 1 a 7 2f 11 a b 8 2 2 2 16 1 7 1 2 1 5 3 1 12 1 
   c 5 9e 35 12 4 5 a 5 3 1e 30 14 2 1 1 8 a a6 2f 29 4 24 30 14 1 b a 26 2b d 1 7 a 36 1b 15 
   c 4 7 b9 2c 74 53 c 8 2 1 2 8 1 2 1 18 f 1 1 1 e a 46 8 2 27 10 1 1 1 1c 1 a 28 7 1 15 1 b 
   2e 13 1 12 49 107 9 1 25 11 1 f 1d 5 1e 70 7 1 2 1 26 15 1 9 a 6 6 1 2 1 20 e 1 7 a 136 13 
   bd 1 f 15 2b 39a 66 6f 11 c4 a4c 61 f 42f fd1 247 21b9 239 7 1f 1 a 6 4f 1 a 6 1e 12 30 10 
   4 c a 1 7 1 15 5 13 2b0 57 69 4b 5 1 42 d 40 2 1 1 1c 17f8 8 4d6 2a 9 22e7 4 1 7 1 2 1 123 
   2d 3 11 4 8 18c 904 6b 5 d 3 9 7 a 1646 14 6c 19 87 55 1 47 1 2 2 1 2 2 2 4 1 c 1 1 1 7 1 
   41 1 4 2 8 1 7 1 1c 1 4 1 5 1 1 3 7 1 154 2 19 1 19 1 1f 1 19 1 1f 1 19 1 1f 1 19 1 1f 1 19 
   1 8 2 32 700 1f 1e1 2d a 7 2 a 4 1 141 1e 12 2c 4 a 4e6 7 1 4 1 2 1 f 1 c5 2 9 30 44 7 1 4 
   a 317 3b 1 3 1 4 4c 2d 1 f c2 4 1 1b 1 2 1 1 2 1 1 a 1 4 1 1 1 1 6 1 4 1 1 1 1 1 1 3 1 2 1 
   1 2 1 1 1 1 1 1 1 1 1 1 2 1 1 2 4 1 7 1 4 1 4 1 1 1 a 1 11 5 3 1 5 1 11 244 d ae3 a 406 
   a6e0 20 1039 7 de 2 1682 e 1d31 c1f 21e 5e2 134b"

/-- Runs of digits beyond ASCII: decimal digits of all scripts, and superscript, subscript and
enclosed digits. -/
def digitRuns : List Nat := hexWords
  "32 2 5 1 5a6 a 86 a c6 a 19c a 76 a 76 a 76 a 76 a 76 a 76 a 76 a 76 a 76 a 60 a 76 a 46 a 
   116 a 46 a 2cf 9 46e a 26 a 12c a 80 b a5 a 6 a b6 a 56 a 86 a 6 a 416 1 3 6 6 a 3d6 9 b 9 
   b 9 59 1 a 9 1 1 276 9 1 9 1 9 7e8d a 2a6 a 26 a c6 a 16 a 56 a 196 a 5316 a 586 a 596 4 
   2ec a 126 9 1e9 9 b a 80 a 3c a 90 a 116 a 156 a 76 a 176 a 66 a 66 a 1a6 a 66 a 2f6 a f6 a 
   46 a 4cb6 a 56 a 86 a 6c74 32 940 a 1a6 a 656 a 7a6 b ae5 a"

/-- Runs beyond ASCII of characters that show as themselves: neither controls, separators,
surrogates, private nor unassigned characters. -/
def printableRuns : List Nat := hexWords
  "21 c 1 2ca 2 6 4 7 1 1 1 14 1 18d 1 26 2 32 2 3 1 37 8 1b 4 6 11 16 1 c0 1 30 2 3b 2 65 e 
   3b 2 31 2 f 1 1c 2 1 1 b 5 1f 9 4a 1 a1 1 8 2 2 2 16 1 7 1 1 3 4 2 9 2 2 2 4 8 1 4 2 1 5 2 
   19 2 3 1 6 4 2 2 16 1 7 1 2 1 2 1 2 2 1 1 5 4 2 2 3 3 1 7 4 1 1 7 11 a 3 1 9 1 3 1 16 1 7 1 
   2 1 5 2 a 1 3 1 3 2 1 f 4 2 c 7 7 1 3 1 8 2 2 2 16 1 7 1 2 1 5 2 9 2 2 2 3 7 3 4 2 1 5 2 12 
   a 2 1 6 3 3 1 4 3 2 1 1 1 2 3 2 3 3 3 c 4 5 3 3 1 4 2 1 6 1 e 15 5 d 1 3 1 17 1 10 2 9 1 3 
   1 4 7 2 1 3 2 1 2 4 2 a 7 16 1 3 1 17 1 a 1 5 2 9 1 3 1 4 7 2 6 2 1 4 2 a 1 2 d d 1 3 1 33 
   1 3 1 6 4 10 2 1a 1 3 1 12 3 18 1 9 1 1 2 7 3 1 4 6 1 1 1 8 6 a 2 3 c 3a 4 1d 25 2 1 1 1 5 
   1 18 1 1 1 17 2 5 1 1 1 6 2 a 2 4 20 48 1 24 4 27 1 24 1 f 1 d 25 c6 1 1 5 1 2 179 1 4 2 7 
   1 1 1 4 2 29 1 4 2 21 1 4 2 7 1 1 1 4 2 f 1 39 1 4 2 43 2 20 3 1a 6 56 2 6 2 280 1 1c 3 59 
   7 16 9 18 9 14 c d 1 3 1 2 c 5e 2 a 6 a 6 e 1 b 6 59 7 2b 5 46 a 1f 1 c 4 c 4 1 3 2a 2 5 b 
   2c 4 1a 6 b 3 3e 2 41 1 1d 2 b 6 a 6 e 2 1f 31 4d 3 2f 1 74 8 3c 3 f 3 3c 7 2b 2 b 8 2b 5 
   216 2 6 2 26 2 6 2 8 1 1 1 1 1 1 1 1f 2 35 1 f 1 e 2 6 1 13 2 3 1 9 11 18 8 2f 11 2 2 1b 1 
   d 3 21 f 21 f 8c 4 297 19 b 15 714 2 20 1 15d 5 2d 1 1 5 1 2 38 7 2 e 18 9 7 1 7 1 7 1 7 1 
   7 1 7 1 7 1 7 1 7e 22 1a 1 59 c d6 1a c 5 3f 1 56 2 67 5 2b 1 5e 1 54 c 2f 1 726d 3 37 9 
   15c 14 b8 8 cb 5 2 1 1 1 5 18 3b 3 a 6 38 8 46 8 c 6 74 b 1e 3 4e 1 b 4 21 1 37 9 e 2 a 2 
   67 18 1c a 6 2 6 2 6 9 7 1 7 1 3c 4 7e 2 a 6 2ba4 c 17 4 31 2104 16e 2 6a 26 7 c 5 5 1a 1 5 
   1 1 1 2 1 2 1 7d 10 1bd 2 36 7 1 20 2a 6 33 1 13 1 4 4 5 1 87 4 be 3 6 2 6 2 6 2 3 3 7 1 7 
   d 2 2 c 1 1a 1 13 1 2 1 f 2 e 22 7b 5 3 4 2d 3 58 1 d 3 1 2f 2e 82 1d 3 31 f 1c 4 24 9 1e 5 
   2b 5 1e 1 25 4 e 2a 9e 2 a 6 24 4 24 4 28 8 34 b c 1 f 1 7 1 2 1 b 1 f 1 7 1 2 43 137 9 16 
   a 8 18 6 1 2a 1 9 45 6 2 1 1 2c 1 2 3 1 2 17 1 48 8 9 30 13 1 2 5 21 3 1b 5 1 40 38 4 14 2 
   32 1 2 5 8 1 3 1 1d 2 3 4 a 7 9 7 40 20 27 4 c 9 36 3 1d 2 1b 5 1a 7 4 c 7 50 49 37 33 d 33 
   7 2e 8 a 126 1f 1 2a 1 3 2 2 4e 28 8 2a 16 1a 26 1c 14 17 9 4e 4 24 9 3e 1 5 d 19 7 a 6 35 
   1 12 8 27 9 60 1 14 b 12 1 2c 41 7 1 1 1 4 1 f 1 b 6 3b 5 a 6 4 1 8 2 2 2 16 1 7 1 2 1 5 1 
   a 2 2 2 3 2 1 6 1 5 7 2 7 3 5 8b 5c 1 5 1e 48 8 a a6 36 2 26 22 45 b a 6 d 13 3a 6 a 36 1b 
   2 f 4 17 b9 3c 64 53 c 8 2 1 2 8 1 2 1 1e 1 2 2 c 9 a 46 8 2 2e 2 b 1b 48 8 53 d 49 107 9 1 
   2d 1 e a 1d 3 20 2 16 1 e 49 7 1 2 1 2c 3 1 1 2 1 9 8 a 6 6 1 2 1 25 1 2 1 6 7 a 136 19 b7 
   1 f 32 d 39b 66 6f 1 5 b c4 a4c 63 d 42f fd1 247 21b9 239 7 1f 1 a 4 51 1 a 6 1e 2 6 a 46 a 
   a 1 7 1 15 5 13 2b0 5b 65 4b 4 39 7 11 40 5 b 2 e 17f8 8 4d6 2a 9 22e7 4 1 7 1 2 1 123 2d 3 
   11 4 8 18c 904 6b 5 d 3 9 7 a 2 4 1260 2e 2 17 9 74 3c f6 a 27 2 4a 8 70 15 46 9a 14 c 57 9 
   19 87 55 1 47 1 2 2 1 2 2 2 4 1 c 1 1 1 7 1 41 1 4 2 8 1 7 1 1c 1 4 1 5 1 1 3 7 1 154 2 124 
   2 2be f 5 1 f 450 1f e1 7 1 11 2 7 1 2 1 5 d5 2d 3 e 2 a 4 2 140 1f 11 3a 5 1 4e0 7 1 4 1 2 
   1 f 1 c5 2 10 29 4c 4 a 4 2 311 44 4c 3d c2 4 1 1b 1 2 1 1 2 1 1 a 1 4 1 1 1 1 6 1 4 1 1 1 
   1 1 1 3 1 2 1 1 2 1 1 1 1 1 1 1 1 1 1 2 1 1 2 4 1 7 1 4 1 4 1 1 1 a 1 11 5 3 1 5 1 11 34 2 
   10e 2c 4 64 c f 2 f 1 f 1 25 a ae 38 1d d 2c 4 9 7 2 e 6 9a 3d8 5 10 3 d 3 74 c 59 7 c 4 1 
   f c 4 38 8 a 6 28 8 1e 2 2 4e 154 c e 2 5 3 5 3 7 9 1d 3 b 5 6 a a 6 8 8 7 9 93 1 37 25 a 
   406 a6e0 20 1039 7 de 2 1682 e 1d31 c1f 21e 5e2 134b aedb5 f0"

/-- Runs of combining marks, the characters with a combining class other than zero. -/
def markRuns : List Nat := hexWords
  "280 4f 1 20 113 5 109 2d 1 1 1 2 1 2 1 1 48 b 30 15 10 1 65 7 2 6 2 2 1 4 23 1 1e 1b a0 9 9 
   1 18 4 1 9 1 3 1 5 2b 3 3c 8 2a 18 1 1d 3c 1 10 1 3 4 67 1 10 1 30 1 3d 1 10 1 6e 1 10 1 6e 
   1 10 1 7f 1 6e 1 10 1 7 2 65 1 10 1 6d 2 10 1 7c 1 6d 3 d 4 6c 3 d 4 4c 2 1b 1 1 1 1 1 37 2 
   1 1 5 4 2 1 1 3 1 2 3e 1 70 1 1 2 52 1 2cf 3 3b4 2 1e 1 9d 1 a 1 cb 1 8f 3 db 2 47 1 14 8 2 
   1 30 e 1 10 65 1 f 1 26 9 36 2 3a 1 b 2 43 1 98 3 1 d 1 7 4 1 6 1 3 2 c6 40 2d0 d 4 1 3 c 
   bfe 3 8d 1 60 20 22a 6 69 2 75d4 1 4 a 20 2 50 2 114 1 25 1 97 1 1b 12 39 3 25 1 5f 1 c 1 
   ef 1 1 3 2 2 5 2 1 1 34 1 f6 1 4f30 1 301 10 3cd 1 e2 1 95 5 692 1 1 1 28 3 4 1 a5 2 23d 4 
   183 2 99 b 31 4 c0 1 29 1 e 1 39 2 45 3 30 2 3e 1 4c 1 9 1 6a 2 b2 2 50 2 10 1 18 7 3 5 cd 
   1 3 1 17 1 63 2 fb 2 7e 1 76 2 73 1 10d 2 102 2 4 1 9c 1 53 1 12 1 51 1 1a5 1 102 1 1 2 51 
   1 4d58 5 3b 7 4b9 2 4cac 1 14c6 5 3 6 8 8 2 7 1e 4 94 3 dbb 7 1 11 2 7 1 2 1 5 105 7 177 1 
   3d 4 5e0 7 6d 7"

/-- Runs beyond ASCII of characters that a test for the end of a word skips. -/
def skippedRuns : List Nat := hexWords
  "28 1 4 1 1 1 4 1 2 2 1f7 c0 4 2 4 1 9 2 1 1 fb 7 cf 1 5 1 31 2d 1 1 1 2 1 2 1 1 2c 1 b 6 a 
   b 1 1 23 1 a 15 10 1 65 8 1 a 1 4 21 1 1 1 1e 1b 5b b 3a b 4 1 2 1 18 18 2b 3 2c 1 7 2 6 8 
   29 3a 37 1 1 1 4 8 4 1 3 7 a 2 d 1 f 1 3a 1 4 4 8 1 14 2 1a 1 2 2 39 1 4 2 4 2 2 3 3 1 1e 2 
   3 1 b 2 39 1 4 5 1 2 4 1 14 2 16 6 1 1 3a 1 2 1 1 4 8 1 7 2 b 2 1e 1 3d 1 c 1 32 1 3 1 37 1 
   1 3 5 3 1 4 7 2 b 2 1d 1 3a 1 2 1 6 1 5 2 14 2 1c 2 39 2 4 4 8 1 14 2 1d 1 48 1 7 3 1 1 5a 
   1 2 7 b 9 62 1 2 9 9 1 1 6 4a 2 1b 1 1 1 1 1 37 e 1 5 1 2 5 b 1 24 9 1 66 4 1 6 1 2 2 2 19 
   2 4 3 10 4 d 1 2 2 6 1 f 1 5e 1 260 3 3b2 3 1d 2 1e 2 1e 2 40 2 1 7 8 1 2 b 3 1 5 1 2d 5 33 
   1 41 2 22 1 76 3 4 2 9 1 6 3 db 2 2 1 3a 1 1 7 1 1 1 1 2 8 6 a 2 1 27 1 8 1f 31 4 30 1 1 5 
   1 1 5 1 28 9 c 2 20 4 2 2 1 3 38 1 1 2 3 1 1 3 3a 8 2 2 40 6 52 3 1 d 1 7 4 1 6 1 3 2 32 3f 
   d 1 22 65 1bd 1 1 3 b 3 d 3 d 3 d 2 c 5 8 2 a 1 2 1 2 5 31 5 1 a 1 1 d 1 10 d 33 21 b8b 2 
   71 3 7d 1 f 1 60 20 2f 1 1d5 1 24 4 3 5 5 1 5d 6 5d 3 6f16 1 4e2 6 10e 1 62 4 1 a 1 1 1c 4 
   50 2 e 22 4e 1 17 3 67 3 3 2 8 1 3 1 4 1 19 2 5 1 97 2 1a 12 d 1 26 8 19 b 2e 3 30 1 2 4 2 
   2 11 1 15 2 42 6 2 2 2 2 c 1 8 1 23 1 b 1 33 1 1 3 2 2 5 2 1 1 1b 1 e 2 5 2 1 1 64 5 9 3 79 
   1 2 1 4 1 4f30 1 93 11 23d 10 3 1 c 10 22 1 2 1 a9 1 7 1 6 1 b 1 23 1 1 1 2f 1 2d 2 43 1 15 
   3 201 1 e2 1 95 5 405 6 1 2a 1 9 246 3 1 2 5 4 28 3 4 1 a5 2 23d 4 183 2 99 b 31 4 7b 1 36 
   f 29 1 2 2 a 3 31 4 2 2 2 1 4 1 a 1 32 3 24 5 1 8 3e 1 c 2 34 9 a 4 2 1 5f 3 2 1 1 2 6 1 a0 
   1 3 8 15 2 39 2 3 1 25 7 3 5 c3 8 2 3 1 1 17 1 54 6 1 1 4 2 1 2 ee 4 6 2 1 2 1b 2 55 8 2 1 
   1 2 6a 1 1 1 2 6 1 1 65 3 2 4 1 5 103 9 1 2 100 2 1 1 4 1 90 4 2 2 4 1 20 a 28 6 2 4 8 1 9 
   6 2 3 2e d 1 2 196 7 1 6 1 1 52 16 2 7 1 2 1 2 7a 6 3 1 1 2 1 7 1 1 48 2 3 1 1 1 15b 2 153b 
   9 36b7 5 3b 7 9 4 40b 1 3f 11 40 2 1 2 400b 4 1 7 1 2 c9e 2 1 4 125c 2e 2 17 220 3 9 10 2 7 
   1e 4 94 3 7bb 37 4 32 8 1 e 1 16 5 1 f 550 7 1 11 2 7 1 2 1 5 105 e 170 1 3d 4 5e0 7 6d 8 
   aaf 5 c0c01 1 1e 60 80 f0"

/-- Runs of cased letters beyond ASCII. -/
def casedRuns : List Nat := hexWords
  "2a 1 a 1 4 1 5 17 1 1f 1 c3 1 4 4 d0 1 1b c0 4 2 2 3 3 1 1 6 1 1 3 1 1 1 14 1 53 1 8b 8 a6 
   1 26 9 29 b17 26 1 1 5 1 2 2b 2 3 2a0 56 2 6 882 9 7 2b 2 3 40 2c 3f d 1 22 65 116 2 6 2 26 
   2 6 2 8 1 1 1 1 1 1 1 1f 2 35 1 7 1 1 3 3 1 7 3 4 2 6 4 d 5 3 1 7 105 1 4 1 2 a 1 1 3 5 6 1 
   1 1 1 1 1 4 1 6 4 1 2 4 5 5 4 1 11 20 3 2 331 34 716 7c 2 67 6 4 3 2 c 26 1 1 5 1 7912 2e 
   12 1c 86 4e 1 17 3 4 1 3b 5 2 1 1 1 5 1b 2 3 1 335 2b 5 9 7 50 4f40 7 c 5 409 1a 6 1a 4a5 
   50 60 24 4 24 74 b 1 f 1 7 1 2 1 b 1 f 1 7 1 2 6c3 33 d 33 bad 40 5560 40 6580 55 1 47 1 2 
   2 1 2 2 2 4 1 c 1 1 1 7 1 41 1 4 2 8 1 7 1 1c 1 4 1 5 1 1 3 7 1 154 2 19 1 19 1 1f 1 19 1 
   1f 1 19 1 1f 1 19 1 1f 1 19 1 8 734 a 1 14 9e1 44 7ec 1a 6 1a 6 1a"

/-- The zero of every decimal digit block beyond ASCII; each block counts up from its zero. -/
def decimalZeros : List Nat := hexWords
  "660 6f0 7c0 966 9e6 a66 ae6 b66 be6 c66 ce6 d66 de6 e50 ed0 f20 1040 1090 17e0 1810 1946 
   19d0 1a80 1a90 1b50 1bb0 1c40 1c50 a620 a8d0 a900 a9d0 a9f0 aa50 abf0 ff10 104a0 10d30 
   11066 110f0 11136 111d0 112f0 11450 114d0 11650 116c0 11730 118e0 11950 11c50 11d50 11da0 
   16a60 16ac0 16b50 1d7ce 1d7d8 1d7e2 1d7ec 1d7f6 1e140 1e2f0 1e950 1fbf0"

/-- Blanks beyond ASCII. -/
def wideBlanks : List Nat := hexWords
  "85 a0 1680 2000 2001 2002 2003 2004 2005 2006 2007 2008 2009 200a 2028 2029 202f 205f 3000"

/-- A letter of any script. -/
def isLetter (c : Char) : Bool :=
  if isAscii c then c.isAlpha else inRuns letterRuns (c.toNat - 128)

/-- A letter or a numeral of any script. -/
def isAlphanumeric (c : Char) : Bool :=
  if isAscii c then c.isAlphanum else inRuns wordRuns (c.toNat - 128)

/-- A character that words are made of: a letter, a numeral or the underscore. -/
def isWordChar (c : Char) : Bool := c == '_' || isAlphanumeric c

/-- A digit of any script, superscripts and enclosed digits included. -/
def isDigit (c : Char) : Bool :=
  if isAscii c then c.isDigit else inRuns digitRuns (c.toNat - 128)

/-- The value of a decimal digit of any script. -/
def decimalDigit? (c : Char) : Option Nat :=
  if isAscii c then
    if c.isDigit then some (c.toNat - '0'.toNat) else none
  else
    (decimalZeros.find? fun start => start ≤ c.toNat && c.toNat < start + 10).map (c.toNat - ·)

/-- A character that shows as itself inside quotes. -/
def isPrintable (c : Char) : Bool :=
  if isAscii c then 32 ≤ c.toNat && c.toNat < 127 else inRuns printableRuns (c.toNat - 128)

/-- A combining mark. -/
def isMark (c : Char) : Bool := !isAscii c && inRuns markRuns (c.toNat - 128)

/-- A character that a test for the end of a word skips. -/
def isSkipped (c : Char) : Bool :=
  if isAscii c then c ∈ ['\x27', '.', ':', '^', '\x60'] else inRuns skippedRuns (c.toNat - 128)

/-- A letter that has a case. -/
def isCased (c : Char) : Bool :=
  if isAscii c then c.isAlpha else inRuns casedRuns (c.toNat - 128)

/-- White space of any script, the four ASCII separators included. -/
def isBlank (c : Char) : Bool :=
  if isAscii c then c == ' ' || (9 ≤ c.toNat && c.toNat ≤ 13) || (28 ≤ c.toNat && c.toNat ≤ 31)
  else wideBlanks.contains c.toNat

/-! ## Quoted texts

The quoted form of a text for messages. It stands between apostrophes, or between double quotes when
it holds an apostrophe and no double quote; a backslash escapes the quote in use, itself, and every
character that does not show as itself. -/

/-- The hexadecimal digits of a code, padded with zeros to the given width. -/
def hexDigits (width code : Nat) : List Char :=
  let digits := Nat.toDigits 16 code
  List.replicate (width - digits.length) '0' ++ digits

/-- The quotation mark for a text. -/
def quoteFor (text : List Char) : Char :=
  if text.contains '\x27' && !text.contains '"' then '"' else '\x27'

/-- One character of a quoted text. -/
def quoteChar (quote c : Char) : List Char :=
  if c = quote || c = '\\' then ['\\', c]
  else if c = '\n' then ['\\', 'n']
  else if c = '\r' then ['\\', 'r']
  else if c = '\t' then ['\\', 't']
  else if isPrintable c then [c]
  else if c.toNat < 0x100 then ['\\', 'x'] ++ hexDigits 2 c.toNat
  else if c.toNat < 0x10000 then ['\\', 'u'] ++ hexDigits 4 c.toNat
  else ['\\', 'U'] ++ hexDigits 8 c.toNat

/-- The quoted form of a text. -/
def quoted (text : String) : String :=
  let quote := quoteFor text.toList
  String.ofList (quote :: text.toList.flatMap (quoteChar quote) ++ [quote])

end RowPlan.Text
