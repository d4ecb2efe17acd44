import JsonSchema.Unicode.Runs

/-!
# Canonical composition

A letter with a mark may be one character or two. The composed form takes every letter apart, brings the marks
behind it into the order of their classes, and puts together what makes one character.

The table has the composites of texts that are free of capitals and of compatibility variants.

## What is here

* `Composition.decompose` — a text with its composites taken apart.
* `Composition.reorder` — marks in the order of their classes; marks of one class keep theirs.
* `Composition.compose` — **the composed form** of a text.
-/

set_option autoImplicit false

namespace JsonSchema.Composition

/-- Reads the table of combining classes: runs of marks with their class. -/
def ofClassNumbers (start : Nat) : List Nat → List (Nat × Nat × Nat)
  | gap :: count :: value :: rest =>
    (start + gap, start + gap + count, value) :: ofClassNumbers (start + gap + count) rest
  | _ => []

/-- The runs of marks of each class. -/
def classes : List (Nat × Nat × Nat) := ofClassNumbers 0 (Runs.numbers
    "768 21 230 0 1 232 0 4 220 0 1 232 0 1 216 0 5 220 0 2 202 0 4 220 0 2 202 0 11 220 0 5 1 0 4 220 0 8 230 0 1
     240 0 1 230 0 3 220 0 3 230 0 2 220 1 3 230 0 4 220 0 1 230 0 1 232 0 2 220 0 1 230 0 1 233 0 2 234 0 1 233 0 2
     234 0 1 233 0 13 230 275 5 230 265 1 220 0 4 230 0 1 220 0 3 230 0 1 222 0 1 220 0 6 230 0 6 220 0 2 230 0 1 220
     0 2 230 0 1 222 0 1 228 0 1 230 0 1 10 0 1 11 0 1 12 0 1 13 0 1 14 0 1 15 0 1 16 0 1 17 0 1 18 0 2 19 0 1 20 0 1
     21 0 1 22 1 1 23 1 1 24 0 1 25 1 1 230 0 1 220 1 1 18 72 8 230 0 1 30 0 1 31 0 1 32 48 1 27 0 1 28 0 1 29 0 1 30
     0 1 31 0 1 32 0 1 33 0 1 34 0 2 230 0 2 220 0 5 230 0 1 220 0 2 230 0 1 220 16 1 35 101 7 230 2 4 230 0 1 220 0
     1 230 2 2 230 1 1 220 0 2 230 0 1 220 35 1 36 30 1 230 0 1 220 0 2 230 0 1 220 0 2 230 0 3 220 0 1 230 0 2 220 0
     1 230 0 1 220 0 3 230 0 1 220 0 1 230 0 1 220 0 1 230 0 1 220 0 1 230 0 1 220 0 2 230 160 7 230 0 1 220 0 1 230
     9 1 220 24 4 230 1 9 230 1 3 230 1 5 230 43 3 220 60 1 230 0 3 220 0 4 230 42 5 230 0 5 220 0 14 230 1 1 220 0 2
     230 0 1 220 0 2 230 0 1 220 0 3 230 0 3 220 0 1 27 0 1 28 0 1 29 0 3 230 0 1 220 0 2 230 0 2 220 0 5 230 60 1 7
     16 1 9 3 1 230 0 1 220 0 2 230 103 1 7 16 1 9 48 1 230 61 1 7 16 1 9 110 1 7 16 1 9 110 1 7 16 1 9 127 1 9 110 1
     7 16 1 9 7 1 84 0 1 91 101 1 7 16 1 9 109 2 9 16 1 9 124 1 9 109 2 103 0 1 9 13 4 107 108 2 118 0 1 9 13 4 122
     76 2 220 27 1 220 1 1 220 1 1 216 55 1 129 0 1 130 1 1 132 5 4 130 2 1 130 1 2 230 0 1 9 1 2 230 62 1 220 112 1
     7 1 2 9 82 1 220 719 3 230 948 2 9 30 1 9 157 1 9 10 1 230 203 1 228 143 1 222 0 1 230 0 1 220 219 1 230 0 1 220
     71 1 9 20 8 230 2 1 220 48 5 230 0 6 220 0 2 230 0 1 220 1 2 220 0 2 230 0 2 220 0 5 230 0 1 220 0 4 230 101 1 7
     15 1 9 38 1 230 0 1 220 0 7 230 54 2 9 58 1 7 11 2 9 67 1 7 152 3 230 1 1 1 0 5 220 0 2 230 0 4 220 0 1 230 1 7
     1 4 1 220 6 1 230 3 2 230 198 2 230 0 1 220 0 7 230 0 1 220 0 2 230 0 1 234 0 1 214 0 1 220 0 1 202 0 37 230 0 1
     232 0 2 228 0 1 220 0 1 218 0 1 230 0 1 233 0 1 220 0 1 230 0 1 220 720 2 230 0 2 1 0 4 230 0 3 1 0 2 230 4 1
     230 3 2 1 0 1 230 0 1 220 0 1 230 0 2 1 0 4 220 0 1 230 3070 3 230 141 1 9 96 32 230 554 1 218 0 1 228 0 1 232 0
     1 222 0 2 224 105 2 8 30164 1 230 4 10 230 32 2 230 80 2 230 276 1 9 37 1 9 151 1 9 27 18 230 57 3 220 37 1 9 95
     1 7 12 1 9 239 1 230 1 2 230 0 1 220 2 2 230 5 2 230 1 1 230 52 1 9 246 1 9 20272 1 26 769 7 230 0 7 220 0 2 230
     973 1 220 226 1 220 149 5 230 1682 1 220 1 1 230 40 1 230 0 1 1 0 1 220 4 1 9 165 1 230 0 1 220 573 4 230 387 2
     230 80 3 220 70 2 220 0 3 230 0 1 220 0 1 230 0 4 220 49 1 230 0 1 220 0 1 230 0 1 220 192 1 9 41 1 9 14 1 9 57
     1 9 0 1 7 69 3 230 48 2 9 62 1 7 76 1 9 9 1 7 106 1 9 0 1 7 178 1 7 0 1 9 80 2 7 16 1 9 24 7 230 3 5 230 205 1 9
     3 1 7 23 1 230 99 1 9 0 1 7 251 1 9 0 1 7 126 1 9 118 1 9 0 1 7 115 1 9 269 1 9 0 1 7 258 2 9 4 1 7 156 1 9 83 1
     9 18 1 9 81 1 9 421 1 9 258 1 7 1 2 9 81 1 9 425 2 9 19373 5 1 59 7 230 1209 2 6 19628 1 1 5318 2 216 0 3 1 3 1
     226 0 5 216 8 8 220 2 5 230 0 2 220 30 4 230 148 3 230 3515 7 230 1 17 230 2 7 230 1 2 230 1 5 230 100 1 230 160
     7 230 375 1 230 61 4 230 508 2 232 0 1 220 0 1 230 992 7 220 109 6 230 0 1 7")

/-- The combining class of a code point; zero for all but marks. -/
def classOf (n : Nat) : Nat :=
  ((classes.find? fun (first, bound, _) => first ≤ n && n < bound).map (·.2.2)).getD 0

/-- Reads the table of composites: each with the two code points that make it. -/
def ofCompositeNumbers (start : Nat) : List Nat → List (Nat × Nat × Nat)
  | gap :: first :: second :: rest => (start + gap, first, second) :: ofCompositeNumbers (start + gap + 1) rest
  | _ => []

/-- The composites and the two code points that make them. -/
def composites : List (Nat × Nat × Nat) := ofCompositeNumbers 0 (Runs.numbers
    "224 97 768 0 97 769 0 97 770 0 97 771 0 97 776 0 97 778 1 99 807 0 101 768 0 101 769 0 101 770 0 101 776 0 105
     768 0 105 769 0 105 770 0 105 776 1 110 771 0 111 768 0 111 769 0 111 770 0 111 771 0 111 776 2 117 768 0 117
     769 0 117 770 0 117 776 0 121 769 1 121 776 1 97 772 1 97 774 1 97 808 1 99 769 1 99 770 1 99 775 1 99 780 1 100
     780 3 101 772 1 101 774 1 101 775 1 101 808 1 101 780 1 103 770 1 103 774 1 103 775 1 103 807 1 104 770 3 105
     771 1 105 772 1 105 774 1 105 808 5 106 770 1 107 807 2 108 769 1 108 807 1 108 780 5 110 769 1 110 807 1 110
     780 4 111 772 1 111 774 1 111 779 3 114 769 1 114 807 1 114 780 1 115 769 1 115 770 1 115 807 1 115 780 1 116
     807 1 116 780 3 117 771 1 117 772 1 117 774 1 117 778 1 117 779 1 117 808 1 119 770 1 121 770 2 122 769 1 122
     775 1 122 780 34 111 795 14 117 795 29 97 780 1 105 780 1 111 780 1 117 780 1 252 772 1 252 769 1 252 780 1 252
     768 2 228 772 1 551 772 1 230 772 3 103 780 1 107 780 1 111 808 1 491 772 1 658 780 0 106 780 4 103 769 3 110
     768 1 229 769 1 230 769 1 248 769 1 97 783 1 97 785 1 101 783 1 101 785 1 105 783 1 105 785 1 111 783 1 111 785
     1 114 783 1 114 785 1 117 783 1 117 785 1 115 806 1 116 806 3 104 780 7 97 775 1 101 807 1 246 772 1 245 772 1
     111 775 1 559 772 1 121 772 348 970 769 27 945 769 0 949 769 0 951 769 0 953 769 0 971 769 25 953 776 0 965 776
     0 959 769 0 965 769 0 969 769 106 1080 774 22 1077 768 0 1077 776 1 1075 769 3 1110 776 4 1082 769 0 1080 768 0
     1091 774 24 1141 783 74 1078 774 14 1072 774 1 1072 776 3 1077 774 3 1241 776 1 1078 776 1 1079 776 3 1080 772 1
     1080 776 1 1086 776 3 1257 776 1 1101 776 1 1091 772 1 1091 776 1 1091 779 1 1095 776 3 1099 776 296 1575 1619 0
     1575 1620 0 1608 1620 0 1575 1621 0 1610 1620 153 1749 1620 1 1729 1620 16 1746 1620 597 2344 2364 7 2352 2364 2
     2355 2364 150 2503 2494 0 2503 2519 379 2887 2902 2 2887 2878 0 2887 2903 71 2962 3031 53 3014 3006 0 3015 3006
     0 3014 3031 123 3142 3158 119 3263 3285 6 3270 3285 0 3270 3286 1 3270 3266 0 3274 3285 126 3398 3390 0 3399
     3390 0 3398 3415 141 3545 3530 1 3545 3535 0 3548 3530 0 3545 3551 583 4133 4142 2783 6917 6965 1 6919 6965 1
     6921 6965 1 6923 6965 1 6925 6965 3 6929 6965 40 6970 6965 1 6972 6965 2 6974 6965 0 6975 6965 1 6978 6965 701
     97 805 1 98 775 1 98 803 1 98 817 1 231 769 1 100 775 1 100 803 1 100 817 1 100 807 1 100 813 1 275 768 1 275
     769 1 101 813 1 101 816 1 553 774 1 102 775 1 103 772 1 104 775 1 104 803 1 104 776 1 104 807 1 104 814 1 105
     816 1 239 769 1 107 769 1 107 803 1 107 817 1 108 803 1 7735 772 1 108 817 1 108 813 1 109 769 1 109 775 1 109
     803 1 110 775 1 110 803 1 110 817 1 110 813 1 245 769 1 245 776 1 333 768 1 333 769 1 112 769 1 112 775 1 114
     775 1 114 803 1 7771 772 1 114 817 1 115 775 1 115 803 1 347 775 1 353 775 1 7779 775 1 116 775 1 116 803 1 116
     817 1 116 813 1 117 804 1 117 816 1 117 813 1 361 769 1 363 776 1 118 771 1 118 803 1 119 768 1 119 769 1 119
     776 1 119 775 1 119 803 1 120 775 1 120 776 1 121 775 1 122 770 1 122 803 1 122 817 0 104 817 0 116 776 0 119
     778 0 121 778 7 97 803 1 97 777 1 226 769 1 226 768 1 226 777 1 226 771 1 7841 770 1 259 769 1 259 768 1 259 777
     1 259 771 1 7841 774 1 101 803 1 101 777 1 101 771 1 234 769 1 234 768 1 234 777 1 234 771 1 7865 770 1 105 777
     1 105 803 1 111 803 1 111 777 1 244 769 1 244 768 1 244 777 1 244 771 1 7885 770 1 417 769 1 417 768 1 417 777 1
     417 771 1 417 803 1 117 803 1 117 777 1 432 769 1 432 768 1 432 777 1 432 771 1 432 803 1 121 768 1 121 803 1
     121 777 1 121 771 6 945 787 0 945 788 0 7936 768 0 7937 768 0 7936 769 0 7937 769 0 7936 834 0 7937 834 8 949
     787 0 949 788 0 7952 768 0 7953 768 0 7952 769 0 7953 769 10 951 787 0 951 788 0 7968 768 0 7969 768 0 7968 769
     0 7969 769 0 7968 834 0 7969 834 8 953 787 0 953 788 0 7984 768 0 7985 768 0 7984 769 0 7985 769 0 7984 834 0
     7985 834 8 959 787 0 959 788 0 8000 768 0 8001 768 0 8000 769 0 8001 769 10 965 787 0 965 788 0 8016 768 0 8017
     768 0 8016 769 0 8017 769 0 8016 834 0 8017 834 8 969 787 0 969 788 0 8032 768 0 8033 768 0 8032 769 0 8033 769
     0 8032 834 0 8033 834 8 945 768 1 949 768 1 951 768 1 953 768 1 959 768 1 965 768 1 969 768 51 945 774 0 945 772
     4 945 834 15 951 834 9 953 774 0 953 772 0 970 768 3 953 834 0 970 834 8 965 774 0 965 772 0 971 768 1 961 787 0
     961 788 0 965 834 0 971 834 14 969 834 419 8592 824 0 8594 824 18 8596 824 30 8656 824 0 8660 824 0 8658 824 52
     8707 824 4 8712 824 2 8715 824 23 8739 824 1 8741 824 26 8764 824 2 8771 824 2 8773 824 1 8776 824 22 61 824 1
     8801 824 10 8781 824 0 60 824 0 62 824 0 8804 824 0 8805 824 2 8818 824 0 8819 824 2 8822 824 0 8823 824 6 8826
     824 0 8827 824 2 8834 824 0 8835 824 2 8838 824 0 8839 824 34 8866 824 0 8872 824 0 8873 824 0 8875 824 48 8828
     824 0 8829 824 0 8849 824 0 8850 824 6 8882 824 0 8883 824 0 8884 824 0 8885 824 3422 12363 12441 1 12365 12441
     1 12367 12441 1 12369 12441 1 12371 12441 1 12373 12441 1 12375 12441 1 12377 12441 1 12379 12441 1 12381 12441
     1 12383 12441 1 12385 12441 2 12388 12441 1 12390 12441 1 12392 12441 6 12399 12441 0 12399 12442 1 12402 12441
     0 12402 12442 1 12405 12441 0 12405 12442 1 12408 12441 0 12408 12442 1 12411 12441 0 12411 12442 22 12358 12441
     9 12445 12441 13 12459 12441 1 12461 12441 1 12463 12441 1 12465 12441 1 12467 12441 1 12469 12441 1 12471 12441
     1 12473 12441 1 12475 12441 1 12477 12441 1 12479 12441 1 12481 12441 2 12484 12441 1 12486 12441 1 12488 12441
     6 12495 12441 0 12495 12442 1 12498 12441 0 12498 12442 1 12501 12441 0 12501 12442 1 12504 12441 0 12504 12442
     1 12507 12441 0 12507 12442 22 12454 12441 2 12527 12441 0 12528 12441 0 12529 12441 0 12530 12441 3 12541 12441
     57243 69785 69818 1 69787 69818 14 69797 69818 130 69937 69927 0 69938 69927 539 70471 70462 0 70471 70487 366
     70841 70842 0 70841 70832 1 70841 70845 251 71096 71087 0 71097 71087 892 71989 71984")

/-! ## Syllables

The syllables of Hangul are composed by rule: from a leading consonant and a vowel, and from such a syllable and a
trailing consonant.
-/

/-- The number of trailing consonants, the missing one among them. -/
def trailing : Nat := 28

/-- The two parts of a syllable. -/
def syllableParts? (n : Nat) : Option (Nat × Nat) :=
  if 0xAC00 ≤ n && n < 0xD7A4 then
    let i := n - 0xAC00
    if i % trailing == 0 then some (0x1100 + i / (21 * trailing), 0x1161 + i / trailing % 21)
    else some (n - i % trailing, 0x11A7 + i % trailing)
  else none

/-- The syllable of two parts. -/
def syllable? (first second : Nat) : Option Nat :=
  if 0x1100 ≤ first && first < 0x1113 && 0x1161 ≤ second && second < 0x1176 then
    some (0xAC00 + ((first - 0x1100) * 21 + (second - 0x1161)) * trailing)
  else if 0xAC00 ≤ first && first < 0xD7A4 && (first - 0xAC00) % trailing == 0 && 0x11A7 < second &&
      second < 0x11C3 then
    some (first + (second - 0x11A7))
  else none

/-! ## Taking apart -/

/-- The two code points that make a composite. -/
def parts? (n : Nat) : Option (Nat × Nat) :=
  (syllableParts? n).or (composites.lookup n)

/-- A code point taken apart, down to a number of steps. -/
def split : Nat → Nat → List Nat
  | 0, n => [n]
  | steps + 1, n =>
    match parts? n with
    | some (first, second) => split steps first ++ [second]
    | none => [n]

/-- A text with its composites taken apart. No composite is more than three steps away from its letter. -/
def decompose (text : List Nat) : List Nat := text.flatMap (split 3)

/-! ## Marks in order -/

/-- Puts a code point before an ordered text, behind the marks of lower classes that it starts with. -/
def place (n : Nat) : List Nat → List Nat
  | [] => [n]
  | m :: ms =>
    if classOf m != 0 && classOf m < classOf n then m :: place n ms else n :: m :: ms

/-- Each row of marks in the order of their classes. -/
def reorder (text : List Nat) : List Nat := text.foldr place []

/-! ## Putting together -/

/-- The code point that two others make. -/
def join? (first second : Nat) : Option Nat :=
  (syllable? first second).or ((composites.find? (·.2 == (first, second))).map (·.1))

/-- Composes a text behind `letter` and the marks that could not be put together with it. A mark reaches the
letter only past marks of lower classes. -/
def joinMarks (letter : Nat) (marks : List Nat) : List Nat → List Nat
  | [] => letter :: marks
  | n :: ns =>
    let reaches : Bool := match marks.getLast? with
      | some m => classOf m < classOf n
      | none => true
    match if reaches then join? letter n else none with
    | some joined => joinMarks joined marks ns
    | none =>
      if classOf n == 0 then letter :: (marks ++ joinMarks n [] ns) else joinMarks letter (marks ++ [n]) ns

/-- The composed form of a text. -/
def compose (text : List Nat) : List Nat :=
  match reorder (decompose text) with
  | [] => []
  | n :: ns => joinMarks n [] ns

end JsonSchema.Composition
