import LiveGrid.Text.Table

/-!
Contract: full upper case of characters and texts.

Owns: the upper case of every character, by the Unicode character database,
version 14. Some characters have an upper case of two or three characters.

Does not own: lower case, and case rules of single languages.
-/

namespace LiveGrid.Text

/-- The characters whose upper case has more than one character. -/
private def longUppercase : List (Nat × List Nat) :=
  [(0xdf, [0x53, 0x53]),
   (0x149, [0x2bc, 0x4e]),
   (0x1f0, [0x4a, 0x30c]),
   (0x390, [0x399, 0x308, 0x301]),
   (0x3b0, [0x3a5, 0x308, 0x301]),
   (0x587, [0x535, 0x552]),
   (0x1e96, [0x48, 0x331]),
   (0x1e97, [0x54, 0x308]),
   (0x1e98, [0x57, 0x30a]),
   (0x1e99, [0x59, 0x30a]),
   (0x1e9a, [0x41, 0x2be]),
   (0x1f50, [0x3a5, 0x313]),
   (0x1f52, [0x3a5, 0x313, 0x300]),
   (0x1f54, [0x3a5, 0x313, 0x301]),
   (0x1f56, [0x3a5, 0x313, 0x342]),
   (0x1f80, [0x1f08, 0x399]),
   (0x1f81, [0x1f09, 0x399]),
   (0x1f82, [0x1f0a, 0x399]),
   (0x1f83, [0x1f0b, 0x399]),
   (0x1f84, [0x1f0c, 0x399]),
   (0x1f85, [0x1f0d, 0x399]),
   (0x1f86, [0x1f0e, 0x399]),
   (0x1f87, [0x1f0f, 0x399]),
   (0x1f88, [0x1f08, 0x399]),
   (0x1f89, [0x1f09, 0x399]),
   (0x1f8a, [0x1f0a, 0x399]),
   (0x1f8b, [0x1f0b, 0x399]),
   (0x1f8c, [0x1f0c, 0x399]),
   (0x1f8d, [0x1f0d, 0x399]),
   (0x1f8e, [0x1f0e, 0x399]),
   (0x1f8f, [0x1f0f, 0x399]),
   (0x1f90, [0x1f28, 0x399]),
   (0x1f91, [0x1f29, 0x399]),
   (0x1f92, [0x1f2a, 0x399]),
   (0x1f93, [0x1f2b, 0x399]),
   (0x1f94, [0x1f2c, 0x399]),
   (0x1f95, [0x1f2d, 0x399]),
   (0x1f96, [0x1f2e, 0x399]),
   (0x1f97, [0x1f2f, 0x399]),
   (0x1f98, [0x1f28, 0x399]),
   (0x1f99, [0x1f29, 0x399]),
   (0x1f9a, [0x1f2a, 0x399]),
   (0x1f9b, [0x1f2b, 0x399]),
   (0x1f9c, [0x1f2c, 0x399]),
   (0x1f9d, [0x1f2d, 0x399]),
   (0x1f9e, [0x1f2e, 0x399]),
   (0x1f9f, [0x1f2f, 0x399]),
   (0x1fa0, [0x1f68, 0x399]),
   (0x1fa1, [0x1f69, 0x399]),
   (0x1fa2, [0x1f6a, 0x399]),
   (0x1fa3, [0x1f6b, 0x399]),
   (0x1fa4, [0x1f6c, 0x399]),
   (0x1fa5, [0x1f6d, 0x399]),
   (0x1fa6, [0x1f6e, 0x399]),
   (0x1fa7, [0x1f6f, 0x399]),
   (0x1fa8, [0x1f68, 0x399]),
   (0x1fa9, [0x1f69, 0x399]),
   (0x1faa, [0x1f6a, 0x399]),
   (0x1fab, [0x1f6b, 0x399]),
   (0x1fac, [0x1f6c, 0x399]),
   (0x1fad, [0x1f6d, 0x399]),
   (0x1fae, [0x1f6e, 0x399]),
   (0x1faf, [0x1f6f, 0x399]),
   (0x1fb2, [0x1fba, 0x399]),
   (0x1fb3, [0x391, 0x399]),
   (0x1fb4, [0x386, 0x399]),
   (0x1fb6, [0x391, 0x342]),
   (0x1fb7, [0x391, 0x342, 0x399]),
   (0x1fbc, [0x391, 0x399]),
   (0x1fc2, [0x1fca, 0x399]),
   (0x1fc3, [0x397, 0x399]),
   (0x1fc4, [0x389, 0x399]),
   (0x1fc6, [0x397, 0x342]),
   (0x1fc7, [0x397, 0x342, 0x399]),
   (0x1fcc, [0x397, 0x399]),
   (0x1fd2, [0x399, 0x308, 0x300]),
   (0x1fd3, [0x399, 0x308, 0x301]),
   (0x1fd6, [0x399, 0x342]),
   (0x1fd7, [0x399, 0x308, 0x342]),
   (0x1fe2, [0x3a5, 0x308, 0x300]),
   (0x1fe3, [0x3a5, 0x308, 0x301]),
   (0x1fe4, [0x3a1, 0x313]),
   (0x1fe6, [0x3a5, 0x342]),
   (0x1fe7, [0x3a5, 0x308, 0x342]),
   (0x1ff2, [0x1ffa, 0x399]),
   (0x1ff3, [0x3a9, 0x399]),
   (0x1ff4, [0x38f, 0x399]),
   (0x1ff6, [0x3a9, 0x342]),
   (0x1ff7, [0x3a9, 0x342, 0x399]),
   (0x1ffc, [0x3a9, 0x399]),
   (0xfb00, [0x46, 0x46]),
   (0xfb01, [0x46, 0x49]),
   (0xfb02, [0x46, 0x4c]),
   (0xfb03, [0x46, 0x46, 0x49]),
   (0xfb04, [0x46, 0x46, 0x4c]),
   (0xfb05, [0x53, 0x54]),
   (0xfb06, [0x53, 0x54]),
   (0xfb13, [0x544, 0x546]),
   (0xfb14, [0x544, 0x535]),
   (0xfb15, [0x544, 0x53b]),
   (0xfb16, [0x54e, 0x546]),
   (0xfb17, [0x544, 0x53d])]

/-- The characters whose upper case is one other character, as rows `start count stride
target`. -/
private def shortUppercase : List (List Nat) :=
  Table.rows [
    "97 26 1 65; 181 1 1 924; 224 23 1 192; 248 7 1 216; 255 1 1 376; 257 24 2 256",
    "305 1 1 73; 307 3 2 306; 314 8 2 313; 331 23 2 330; 378 3 2 377; 383 1 1 83; 384 1 1 579",
    "387 2 2 386; 392 1 1 391; 396 1 1 395; 402 1 1 401; 405 1 1 502; 409 1 1 408",
    "410 1 1 573; 414 1 1 544; 417 3 2 416; 424 1 1 423; 429 1 1 428; 432 1 1 431",
    "436 2 2 435; 441 1 1 440; 445 1 1 444; 447 1 1 503; 453 1 1 452; 454 1 1 452",
    "456 1 1 455; 457 1 1 455; 459 1 1 458; 460 1 1 458; 462 8 2 461; 477 1 1 398",
    "479 9 2 478; 498 1 1 497; 499 1 1 497; 501 1 1 500; 505 20 2 504; 547 9 2 546",
    "572 1 1 571; 575 2 1 11390; 578 1 1 577; 583 5 2 582; 592 1 1 11375; 593 1 1 11373",
    "594 1 1 11376; 595 1 1 385; 596 1 1 390; 598 2 1 393; 601 1 1 399; 603 1 1 400",
    "604 1 1 42923; 608 1 1 403; 609 1 1 42924; 611 1 1 404; 613 1 1 42893; 614 1 1 42922",
    "616 1 1 407; 617 1 1 406; 618 1 1 42926; 619 1 1 11362; 620 1 1 42925; 623 1 1 412",
    "625 1 1 11374; 626 1 1 413; 629 1 1 415; 637 1 1 11364; 640 1 1 422; 642 1 1 42949",
    "643 1 1 425; 647 1 1 42929; 648 1 1 430; 649 1 1 580; 650 2 1 433; 652 1 1 581",
    "658 1 1 439; 669 1 1 42930; 670 1 1 42928; 837 1 1 921; 881 2 2 880; 887 1 1 886",
    "891 3 1 1021; 940 1 1 902; 941 3 1 904; 945 17 1 913; 962 1 1 931; 963 9 1 931",
    "972 1 1 908; 973 2 1 910; 976 1 1 914; 977 1 1 920; 981 1 1 934; 982 1 1 928",
    "983 1 1 975; 985 12 2 984; 1008 1 1 922; 1009 1 1 929; 1010 1 1 1017; 1011 1 1 895",
    "1013 1 1 917; 1016 1 1 1015; 1019 1 1 1018; 1072 32 1 1040; 1104 16 1 1024",
    "1121 17 2 1120; 1163 27 2 1162; 1218 7 2 1217; 1231 1 1 1216; 1233 48 2 1232",
    "1377 38 1 1329; 4304 43 1 7312; 4349 3 1 7357; 5112 6 1 5104; 7296 1 1 1042",
    "7297 1 1 1044; 7298 1 1 1054; 7299 2 1 1057; 7301 1 1 1058; 7302 1 1 1066; 7303 1 1 1122",
    "7304 1 1 42570; 7545 1 1 42877; 7549 1 1 11363; 7566 1 1 42950; 7681 75 2 7680",
    "7835 1 1 7776; 7841 48 2 7840; 7936 8 1 7944; 7952 6 1 7960; 7968 8 1 7976",
    "7984 8 1 7992; 8000 6 1 8008; 8017 4 2 8025; 8032 8 1 8040; 8048 2 1 8122; 8050 4 1 8136",
    "8054 2 1 8154; 8056 2 1 8184; 8058 2 1 8170; 8060 2 1 8186; 8112 2 1 8120; 8126 1 1 921",
    "8144 2 1 8152; 8160 2 1 8168; 8165 1 1 8172; 8526 1 1 8498; 8560 16 1 8544",
    "8580 1 1 8579; 9424 26 1 9398; 11312 48 1 11264; 11361 1 1 11360; 11365 1 1 570",
    "11366 1 1 574; 11368 3 2 11367; 11379 1 1 11378; 11382 1 1 11381; 11393 50 2 11392",
    "11500 2 2 11499; 11507 1 1 11506; 11520 38 1 4256; 11559 1 1 4295; 11565 1 1 4301",
    "42561 23 2 42560; 42625 14 2 42624; 42787 7 2 42786; 42803 31 2 42802; 42874 2 2 42873",
    "42879 5 2 42878; 42892 1 1 42891; 42897 2 2 42896; 42900 1 1 42948; 42903 10 2 42902",
    "42933 8 2 42932; 42952 2 2 42951; 42961 1 1 42960; 42967 2 2 42966; 42998 1 1 42997",
    "43859 1 1 42931; 43888 80 1 5024; 65345 26 1 65313; 66600 40 1 66560; 66776 36 1 66736",
    "66967 11 1 66928; 66979 15 1 66940; 66995 7 1 66956; 67003 2 1 66964; 68800 51 1 68736",
    "71872 32 1 71840; 93792 32 1 93760; 125218 34 1 125184"]

/-- The upper case of a character. -/
def uppercaseOf (character : Char) : List Char :=
  if character.toNat < 128 then [character.toUpper]
  else
    match longUppercase.lookup character.toNat with
    | some codes => codes.map Char.ofNat
    | none =>
        match Table.image? shortUppercase character.toNat with
        | some code => [Char.ofNat code]
        | none => [character]

/-- Every character has an upper case. -/
theorem uppercaseOf_ne_nil (character : Char) : uppercaseOf character ≠ [] := by
  have longNotNil : ∀ row ∈ longUppercase, row.2 ≠ [] := by decide
  unfold uppercaseOf
  split
  · exact List.cons_ne_nil _ _
  · split
    · rename_i codes found
      obtain ⟨before, after, isTable, -⟩ := List.lookup_eq_some_iff.1 found
      have member : (character.toNat, codes) ∈ longUppercase := by simp [isTable]
      simpa using longNotNil _ member
    · split <;> exact List.cons_ne_nil _ _

/-- The upper case of a text, character by character. -/
def uppercase (text : String) : String :=
  String.ofList (text.toList.flatMap uppercaseOf)

end LiveGrid.Text
