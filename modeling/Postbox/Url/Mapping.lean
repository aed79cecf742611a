import Postbox.Text.Runs

namespace Postbox.Url

/-!
# The mapping of host names

Before a host name is compared or looked up, letters lose their case, variants of a character give
way to the plain one, and characters that are not shown are left out.  All other characters are
either kept or may not occur at all (Unicode 16).  The tables speak of characters that have no
canonical decomposition.

* `Mapped` — what becomes of a character.
* `mapped` — the rule.
-/

/-- What becomes of a character in a host name. -/
inductive Mapped where
  | kept
  | dropped
  | replaced (cs : List Char)
  | refused
  deriving Repr, DecidableEq

/-- Characters in equal steps that are replaced by a character each, in the same steps. -/
structure Shift where
  first : Nat
  step : Nat
  count : Nat
  target : Nat
  deriving Repr, DecidableEq

/-- The shifts that four numbers each describe. -/
def Shift.ofNumbers : List Nat → List Shift
  | first :: step :: count :: target :: rest => ⟨first, step, count, target⟩ :: ofNumbers rest
  | _ => []

/-- Whether a code point is one of those that are replaced. -/
def Shift.covers (s : Shift) (n : Nat) : Bool :=
  s.first ≤ n && n < s.first + s.step * s.count && (n - s.first) % s.step == 0

/-- The groups of numbers that a zero ends. -/
def groups : List Nat → List (List Nat)
  | [] => []
  | 0 :: ns => [] :: groups ns
  | n :: ns =>
    match groups ns with
    | [] => [[n]]
    | g :: gs => (n :: g) :: gs

/-- The characters that groups describe, each by itself and its replacement. -/
def expansionsOfGroups (gs : List (List Nat)) : List (Nat × List Char) :=
  gs.filterMap fun
    | [] => none
    | n :: ns => some (n, ns.map Char.ofNat)

/-- The characters that are replaced by a single one. -/
def shifts : List Shift :=
  Shift.ofNumbers <| List.flatMap (fun s => Text.Runs.numerals none s.toList)
  ["65 1 26 97 160 1 1 32 170 1 1 97 178 1 2 50 181 1 1 956 185 1 1 49 186 1 1 111 198 1 1 230",
   "208 1 1 240 216 1 1 248 222 1 1 254 272 1 1 273 294 1 1 295 321 1 1 322 330 1 1 331 338 1 1",
   "339 358 1 1 359 383 1 1 115 385 1 1 595 386 2 2 387 390 1 1 596 391 1 1 392 393 1 2 598 395",
   "1 1 396 398 1 1 477 399 1 1 601 400 1 1 603 401 1 1 402 403 1 1 608 404 1 1 611 406 1 1 617",
   "407 1 1 616 408 1 1 409 412 1 1 623 413 1 1 626 415 1 1 629 418 2 2 419 422 1 1 640 423 1 1",
   "424 425 1 1 643 428 1 1 429 430 1 1 648 433 1 2 650 435 2 2 436 439 1 1 658 440 1 1 441 444",
   "1 1 445 484 1 1 485 502 1 1 405 503 1 1 447 540 1 1 541 544 1 1 414 546 2 2 547 570 1 1",
   "11365 571 1 1 572 573 1 1 410 574 1 1 11366 577 1 1 578 579 1 1 384 580 1 1 649 581 1 1 652",
   "582 2 5 583 688 2 2 104 689 1 1 614 691 1 1 114 692 1 1 633 693 1 1 635 694 1 1 641 695 1 1",
   "119 696 1 1 121 736 1 1 611 737 1 1 108 738 1 1 115 739 1 1 120 740 1 1 661 837 1 1 953 880",
   "2 2 881 886 1 1 887 895 1 1 1011 913 1 17 945 931 1 7 963 975 1 1 983 976 1 1 946 977 1 1",
   "952 978 1 1 965 981 1 1 966 982 1 1 960 984 2 12 985 1008 1 1 954 1009 1 1 961 1010 1 1 963",
   "1012 1 1 952 1013 1 1 949 1015 1 1 1016 1017 1 1 963 1018 1 1 1019 1021 1 3 891 1026 2 5",
   "1106 1029 1 1 1109 1033 2 2 1113 1039 1 1 1119 1040 2 16 1072 1041 2 4 1073 1051 2 11 1083",
   "1120 2 11 1121 1144 2 5 1145 1162 2 27 1163 1216 1 1 1231 1219 2 6 1220 1236 1 1 1237 1240 1",
   "1 1241 1248 1 1 1249 1256 1 1 1257 1270 1 1 1271 1274 2 27 1275 1329 1 38 1377 3852 1 1 3851",
   "4256 1 38 11520 4295 1 1 11559 4301 1 1 11565 4348 1 1 4316 5112 1 6 5104 7296 1 1 1074 7297",
   "1 1 1076 7298 1 1 1086 7299 1 2 1089 7301 1 1 1090 7302 1 1 1098 7303 1 1 1123 7304 1 1",
   "42571 7305 1 1 7306 7312 1 43 4304 7357 1 3 4349 7468 1 1 97 7469 1 1 230 7470 2 2 98 7473 2",
   "5 101 7474 1 1 477 7476 2 4 104 7484 1 1 111 7485 1 1 547 7486 1 1 112 7487 1 1 114 7488 1 2",
   "116 7490 1 1 119 7491 1 1 97 7492 1 2 592 7494 1 1 7426 7495 1 1 98 7496 1 2 100 7498 1 1",
   "601 7499 1 2 603 7501 1 1 103 7503 1 1 107 7504 2 2 109 7505 1 1 331 7507 1 1 596 7508 1 2",
   "7446 7510 1 1 112 7511 1 2 116 7513 1 1 7453 7514 1 1 623 7515 1 1 118 7516 1 1 7461 7517 1",
   "3 946 7520 1 2 966 7522 1 1 105 7523 1 1 114 7524 1 2 117 7526 1 2 946 7528 1 1 961 7529 1 2",
   "966 7544 1 1 1085 7579 1 1 594 7580 1 1 99 7581 1 1 597 7582 1 1 240 7583 1 1 604 7584 1 1",
   "102 7585 1 1 607 7586 1 1 609 7587 1 1 613 7588 1 3 616 7591 1 1 7547 7592 1 1 669 7593 1 1",
   "621 7594 1 1 7557 7595 1 1 671 7596 1 1 625 7597 1 1 624 7598 1 4 626 7602 1 1 632 7603 1 2",
   "642 7605 1 1 427 7606 1 2 649 7608 1 1 7452 7609 1 2 651 7611 1 1 122 7612 1 3 656 7615 1 1",
   "952 7838 1 1 223 7930 2 3 7931 8194 1 1 32 8195 1 1 32 8196 1 1 32 8197 1 1 32 8198 1 1 32",
   "8199 1 1 32 8200 1 1 32 8201 1 1 32 8202 1 1 32 8209 1 1 8208 8239 1 1 32 8287 1 1 32 8304 1",
   "1 48 8305 1 1 105 8308 1 6 52 8314 1 1 43 8315 1 1 8722 8316 1 1 61 8317 1 2 40 8319 1 1 110",
   "8320 1 10 48 8330 1 1 43 8331 1 1 8722 8332 1 1 61 8333 1 2 40 8336 1 1 97 8337 1 1 101 8338",
   "1 1 111 8339 1 1 120 8340 1 1 601 8341 1 1 104 8342 1 4 107 8346 1 1 112 8347 1 2 115 8450 1",
   "1 99 8455 1 1 603 8458 1 2 103 8460 1 1 104 8461 1 1 104 8462 1 1 104 8463 1 1 295 8464 1 1",
   "105 8465 1 1 105 8466 1 1 108 8467 2 2 108 8473 1 3 112 8476 1 1 114 8477 1 1 114 8484 1 1",
   "122 8488 1 1 122 8492 1 2 98 8495 1 1 101 8496 1 2 101 8498 1 1 8526 8499 1 1 109 8500 1 1",
   "111 8501 1 4 1488 8505 1 1 105 8508 1 1 960 8509 1 1 947 8510 1 1 947 8511 1 1 960 8512 1 1",
   "8721 8517 1 1 100 8518 1 2 100 8520 1 2 105 8544 1 1 105 8548 1 1 118 8553 1 1 120 8556 1 1",
   "108 8557 1 2 99 8559 1 1 109 8560 1 1 105 8564 1 1 118 8569 1 1 120 8572 1 1 108 8573 1 2 99",
   "8575 1 1 109 8579 1 1 8580 9312 1 9 49 9398 1 26 97 9424 1 26 97 9450 1 1 48 11264 1 48",
   "11312 11360 1 1 11361 11362 1 1 619 11363 1 1 7549 11364 1 1 637 11367 2 3 11368 11373 1 1",
   "593 11374 1 1 625 11375 1 1 592 11376 1 1 594 11378 1 1 11379 11381 1 1 11382 11388 1 1 106",
   "11389 1 1 118 11390 1 2 575 11392 2 50 11393 11499 2 2 11500 11506 1 1 11507 11631 1 1 11617",
   "11935 1 1 27597 12019 1 1 40863 12032 1 1 19968 12033 1 1 20008 12034 1 1 20022 12035 1 1",
   "20031 12036 1 1 20057 12037 1 1 20101 12038 1 1 20108 12039 1 1 20128 12040 1 1 20154 12041",
   "1 1 20799 12042 1 1 20837 12043 1 1 20843 12044 1 1 20866 12045 1 1 20886 12046 1 1 20907",
   "12047 1 1 20960 12048 1 1 20981 12049 1 1 20992 12050 1 1 21147 12051 1 1 21241 12052 1 1",
   "21269 12053 1 1 21274 12054 1 1 21304 12055 1 1 21313 12056 1 1 21340 12057 1 1 21353 12058",
   "1 1 21378 12059 1 1 21430 12060 1 1 21448 12061 1 1 21475 12062 1 1 22231 12063 1 1 22303",
   "12064 1 1 22763 12065 1 1 22786 12066 1 1 22794 12067 1 1 22805 12068 1 1 22823 12069 1 1",
   "22899 12070 1 1 23376 12071 1 1 23424 12072 1 1 23544 12073 1 1 23567 12074 1 1 23586 12075",
   "1 1 23608 12076 1 1 23662 12077 1 1 23665 12078 1 1 24027 12079 1 1 24037 12080 1 1 24049",
   "12081 1 1 24062 12082 1 1 24178 12083 1 1 24186 12084 1 1 24191 12085 1 1 24308 12086 1 1",
   "24318 12087 1 1 24331 12088 1 1 24339 12089 1 1 24400 12090 1 1 24417 12091 1 1 24435 12092",
   "1 1 24515 12093 1 1 25096 12094 1 1 25142 12095 1 1 25163 12096 1 1 25903 12097 1 1 25908",
   "12098 1 1 25991 12099 1 1 26007 12100 1 1 26020 12101 1 1 26041 12102 1 1 26080 12103 1 1",
   "26085 12104 1 1 26352 12105 1 1 26376 12106 1 1 26408 12107 1 1 27424 12108 1 1 27490 12109",
   "1 1 27513 12110 1 1 27571 12111 1 1 27595 12112 1 1 27604 12113 1 1 27611 12114 1 1 27663",
   "12115 1 1 27668 12116 1 1 27700 12117 1 1 28779 12118 1 1 29226 12119 1 1 29238 12120 1 1",
   "29243 12121 1 1 29247 12122 1 1 29255 12123 1 1 29273 12124 1 1 29275 12125 1 1 29356 12126",
   "1 1 29572 12127 1 1 29577 12128 1 1 29916 12129 1 1 29926 12130 1 1 29976 12131 1 1 29983",
   "12132 1 1 29992 12133 1 1 30000 12134 1 1 30091 12135 1 1 30098 12136 1 1 30326 12137 1 1",
   "30333 12138 1 1 30382 12139 1 1 30399 12140 1 1 30446 12141 1 1 30683 12142 1 1 30690 12143",
   "1 1 30707 12144 1 1 31034 12145 1 1 31160 12146 1 1 31166 12147 1 1 31348 12148 1 1 31435",
   "12149 1 1 31481 12150 1 1 31859 12151 1 1 31992 12152 1 1 32566 12153 1 1 32593 12154 1 1",
   "32650 12155 1 1 32701 12156 1 1 32769 12157 1 1 32780 12158 1 1 32786 12159 1 1 32819 12160",
   "1 1 32895 12161 1 1 32905 12162 1 1 33251 12163 1 1 33258 12164 1 1 33267 12165 1 1 33276",
   "12166 1 1 33292 12167 1 1 33307 12168 1 1 33311 12169 1 1 33390 12170 1 1 33394 12171 1 1",
   "33400 12172 1 1 34381 12173 1 1 34411 12174 1 1 34880 12175 1 1 34892 12176 1 1 34915 12177",
   "1 1 35198 12178 1 1 35211 12179 1 1 35282 12180 1 1 35328 12181 1 1 35895 12182 1 1 35910",
   "12183 1 1 35925 12184 1 1 35960 12185 1 1 35997 12186 1 1 36196 12187 1 1 36208 12188 1 1",
   "36275 12189 1 1 36523 12190 1 1 36554 12191 1 1 36763 12192 1 1 36784 12193 1 1 36789 12194",
   "1 1 37009 12195 1 1 37193 12196 1 1 37318 12197 1 1 37324 12198 1 1 37329 12199 1 1 38263",
   "12200 1 1 38272 12201 1 1 38428 12202 1 1 38582 12203 1 1 38585 12204 1 1 38632 12205 1 1",
   "38737 12206 1 1 38750 12207 1 1 38754 12208 1 1 38761 12209 1 1 38859 12210 1 1 38893 12211",
   "1 1 38899 12212 1 1 38913 12213 1 1 39080 12214 1 1 39131 12215 1 1 39135 12216 1 1 39318",
   "12217 1 1 39321 12218 1 1 39340 12219 1 1 39592 12220 1 1 39640 12221 1 1 39647 12222 1 1",
   "39717 12223 1 1 39727 12224 1 1 39730 12225 1 1 39740 12226 1 1 39770 12227 1 1 40165 12228",
   "1 1 40565 12229 1 1 40575 12230 1 1 40613 12231 1 1 40635 12232 1 1 40643 12233 1 1 40653",
   "12234 1 1 40657 12235 1 1 40697 12236 1 1 40701 12237 1 1 40718 12238 1 1 40723 12239 1 1",
   "40736 12240 1 1 40763 12241 1 1 40778 12242 1 1 40786 12243 1 1 40845 12244 1 1 40860 12245",
   "1 1 40864 12288 1 1 32 12290 1 1 46 12342 1 1 12306 12344 1 1 21313 12345 1 2 21316 12593 1",
   "2 4352 12595 2 2 4522 12596 1 1 4354 12598 1 1 4525 12599 1 3 4355 12602 1 6 4528 12608 1 1",
   "4378 12609 1 3 4358 12612 1 1 4385 12613 1 10 4361 12623 1 21 4449 12645 1 2 4372 12647 1 2",
   "4551 12649 1 1 4556 12650 1 1 4558 12651 1 1 4563 12652 1 1 4567 12653 1 1 4569 12654 1 1",
   "4380 12655 1 1 4573 12656 1 1 4575 12657 1 2 4381 12659 1 1 4384 12660 1 2 4386 12662 1 1",
   "4391 12663 1 1 4393 12664 1 5 4395 12669 1 1 4402 12670 1 1 4406 12671 1 1 4416 12672 1 1",
   "4423 12673 1 1 4428 12674 1 2 4593 12676 1 3 4439 12679 1 2 4484 12681 1 1 4488 12682 1 2",
   "4497 12684 1 1 4500 12685 1 1 4510 12686 1 1 4513 12690 1 1 19968 12691 1 1 20108 12692 1 1",
   "19977 12693 1 1 22235 12694 1 1 19978 12695 1 1 20013 12696 1 1 19979 12697 1 1 30002 12698",
   "1 1 20057 12699 1 1 19993 12700 1 1 19969 12701 1 1 22825 12702 1 1 22320 12703 1 1 20154",
   "12868 1 1 21839 12869 1 1 24188 12870 1 1 25991 12871 1 1 31631 12896 1 1 4352 12897 1 2",
   "4354 12899 1 3 4357 12902 1 1 4361 12903 1 2 4363 12905 1 5 4366 12910 1 1 44032 12911 1 1",
   "45208 12912 1 1 45796 12913 1 1 46972 12914 1 1 47560 12915 1 1 48148 12916 1 1 49324 12917",
   "1 1 50500 12918 1 1 51088 12919 1 1 52264 12920 1 1 52852 12921 1 1 53440 12922 1 1 54028",
   "12923 1 1 54616 12926 1 1 50864 12928 1 1 19968 12929 1 1 20108 12930 1 1 19977 12931 1 1",
   "22235 12932 1 1 20116 12933 1 1 20845 12934 1 1 19971 12935 1 1 20843 12936 1 1 20061 12937",
   "1 1 21313 12938 1 1 26376 12939 1 1 28779 12940 1 1 27700 12941 1 1 26408 12942 1 1 37329",
   "12943 1 1 22303 12944 1 1 26085 12945 1 1 26666 12946 1 1 26377 12947 1 1 31038 12948 1 1",
   "21517 12949 1 1 29305 12950 1 1 36001 12951 1 1 31069 12952 1 1 21172 12953 1 1 31192 12954",
   "1 1 30007 12955 1 1 22899 12956 1 1 36969 12957 1 1 20778 12958 1 1 21360 12959 1 1 27880",
   "12960 1 1 38917 12961 1 1 20241 12962 1 1 20889 12963 1 1 27491 12964 1 1 19978 12965 1 1",
   "20013 12966 1 1 19979 12967 1 1 24038 12968 1 1 21491 12969 1 1 21307 12970 1 1 23447 12971",
   "1 1 23398 12972 1 1 30435 12973 1 1 20225 12974 1 1 36039 12975 1 1 21332 12976 1 1 22812",
   "13008 1 1 12450 13009 1 1 12452 13010 1 1 12454 13011 1 1 12456 13012 1 2 12458 13014 1 1",
   "12461 13015 1 1 12463 13016 1 1 12465 13017 1 1 12467 13018 1 1 12469 13019 1 1 12471 13020",
   "1 1 12473 13021 1 1 12475 13022 1 1 12477 13023 1 1 12479 13024 1 1 12481 13025 1 1 12484",
   "13026 1 1 12486 13027 1 1 12488 13028 1 6 12490 13034 1 1 12498 13035 1 1 12501 13036 1 1",
   "12504 13037 1 1 12507 13038 1 5 12510 13043 1 1 12516 13044 1 1 12518 13045 1 6 12520 13051",
   "1 4 12527 42560 2 23 42561 42624 2 14 42625 42652 1 1 1098 42653 1 1 1100 42786 2 7 42787",
   "42802 2 31 42803 42864 1 1 42863 42873 2 2 42874 42877 1 1 7545 42878 2 5 42879 42891 1 1",
   "42892 42893 1 1 613 42896 2 2 42897 42902 2 10 42903 42922 1 1 614 42923 1 1 604 42924 1 1",
   "609 42925 1 1 620 42926 1 1 618 42928 1 1 670 42929 1 1 647 42930 1 1 669 42931 1 1 43859",
   "42932 2 8 42933 42948 1 1 42900 42949 1 1 642 42950 1 1 7566 42951 2 2 42952 42955 1 1 612",
   "42956 1 1 42957 42966 2 3 42967 42972 1 1 411 42994 1 1 99 42995 1 1 102 42996 1 1 113 42997",
   "1 1 42998 43000 1 1 295 43001 1 1 339 43868 1 1 42791 43869 1 1 43831 43870 1 1 619 43871 1",
   "1 43858 43881 1 1 653 43888 1 80 5024 64288 1 1 1506 64289 1 1 1488 64290 1 2 1491 64292 1 3",
   "1499 64295 1 1 1512 64296 1 1 1514 64297 1 1 43 64336 1 1 1649 64337 1 1 1649 64338 1 1 1659",
   "64339 1 1 1659 64340 1 1 1659 64341 1 1 1659 64342 1 1 1662 64343 1 1 1662 64344 2 2 1662",
   "64345 2 2 1662 64348 1 1 1664 64349 1 1 1664 64350 1 1 1658 64351 1 1 1658 64352 1 1 1658",
   "64353 1 1 1658 64354 1 1 1663 64355 1 1 1663 64356 1 1 1663 64357 1 1 1663 64358 1 1 1657",
   "64359 1 1 1657 64360 1 1 1657 64361 1 1 1657 64362 1 1 1700 64363 1 1 1700 64364 2 2 1700",
   "64365 2 2 1700 64368 1 1 1702 64369 1 1 1702 64370 1 1 1668 64371 1 1 1668 64372 1 1 1668",
   "64373 1 1 1668 64374 1 1 1667 64375 1 1 1667 64376 1 1 1667 64377 1 1 1667 64378 1 1 1670",
   "64379 1 1 1670 64380 1 1 1670 64381 1 2 1670 64383 1 1 1671 64384 1 1 1671 64385 1 1 1671",
   "64386 1 1 1677 64387 1 1 1677 64388 2 2 1676 64389 2 2 1676 64392 1 1 1672 64393 1 1 1672",
   "64394 1 1 1688 64395 1 1 1688 64396 1 1 1681 64397 1 1 1681 64398 1 1 1705 64399 1 1 1705",
   "64400 1 1 1705 64401 1 1 1705 64402 1 1 1711 64403 1 1 1711 64404 1 1 1711 64405 1 1 1711",
   "64406 1 1 1715 64407 1 1 1715 64408 1 1 1715 64409 1 1 1715 64410 1 1 1713 64411 1 1 1713",
   "64412 1 1 1713 64413 1 1 1713 64414 1 1 1722 64415 1 2 1722 64417 1 1 1723 64418 1 1 1723",
   "64419 1 1 1723 64420 1 1 1728 64421 1 2 1728 64423 1 1 1729 64424 1 1 1729 64425 1 1 1729",
   "64426 1 1 1726 64427 1 1 1726 64428 1 1 1726 64429 1 1 1726 64430 1 1 1746 64431 1 2 1746",
   "64433 1 1 1747 64467 1 1 1709 64468 1 1 1709 64469 1 1 1709 64470 1 1 1709 64471 1 1 1735",
   "64472 1 1 1735 64473 2 2 1734 64474 2 2 1734 64478 1 1 1739 64479 1 1 1739 64480 1 1 1733",
   "64481 1 1 1733 64482 1 1 1737 64483 1 1 1737 64484 1 1 1744 64485 1 1 1744 64486 1 1 1744",
   "64487 1 1 1744 64488 1 1 1609 64489 1 1 1609 64508 1 1 1740 64509 1 1 1740 64510 1 1 1740",
   "64511 1 1 1740 65040 1 1 44 65041 1 1 12289 65043 1 2 58 65045 1 1 33 65046 1 1 63 65047 1 2",
   "12310 65073 1 1 8212 65074 1 1 8211 65075 1 1 95 65076 1 1 95 65077 1 2 40 65079 1 1 123",
   "65080 1 1 125 65081 1 2 12308 65083 1 2 12304 65085 1 2 12298 65087 1 2 12296 65089 1 4",
   "12300 65095 1 1 91 65096 1 1 93 65101 1 1 95 65102 1 1 95 65103 1 1 95 65104 1 1 44 65105 1",
   "1 12289 65108 1 1 59 65109 1 1 58 65110 1 1 63 65111 1 1 33 65112 1 1 8212 65113 1 2 40",
   "65115 1 1 123 65116 1 1 125 65117 1 2 12308 65119 1 1 35 65120 1 1 38 65121 1 2 42 65123 1 1",
   "45 65124 1 1 60 65125 1 1 62 65126 1 1 61 65128 1 1 92 65129 1 2 36 65131 1 1 64 65152 1 2",
   "1569 65154 1 2 1570 65156 1 2 1571 65158 1 2 1572 65160 1 2 1573 65162 1 1 1574 65163 1 1",
   "1574 65164 1 2 1574 65166 1 2 1575 65168 1 1 1576 65169 1 1 1576 65170 1 2 1576 65172 1 2",
   "1577 65174 1 1 1578 65175 1 1 1578 65176 1 2 1578 65178 1 1 1579 65179 1 1 1579 65180 1 2",
   "1579 65182 1 1 1580 65183 1 1 1580 65184 1 2 1580 65186 1 1 1581 65187 1 1 1581 65188 1 2",
   "1581 65190 1 1 1582 65191 1 1 1582 65192 1 2 1582 65194 1 2 1583 65196 1 2 1584 65198 1 2",
   "1585 65200 1 2 1586 65202 1 1 1587 65203 1 1 1587 65204 1 2 1587 65206 1 1 1588 65207 1 1",
   "1588 65208 1 2 1588 65210 1 1 1589 65211 1 1 1589 65212 1 2 1589 65214 1 1 1590 65215 1 1",
   "1590 65216 1 2 1590 65218 1 1 1591 65219 1 1 1591 65220 1 2 1591 65222 1 1 1592 65223 1 1",
   "1592 65224 1 2 1592 65226 1 1 1593 65227 1 1 1593 65228 1 2 1593 65230 1 1 1594 65231 1 1",
   "1594 65232 1 1 1594 65233 1 1 1601 65234 1 1 1601 65235 1 1 1601 65236 1 2 1601 65238 1 1",
   "1602 65239 1 1 1602 65240 1 2 1602 65242 1 1 1603 65243 1 1 1603 65244 1 2 1603 65246 1 1",
   "1604 65247 1 1 1604 65248 1 2 1604 65250 1 1 1605 65251 1 1 1605 65252 1 2 1605 65254 1 1",
   "1606 65255 1 1 1606 65256 1 2 1606 65258 1 1 1607 65259 1 1 1607 65260 1 2 1607 65262 1 2",
   "1608 65264 1 2 1609 65266 1 1 1610 65267 1 1 1610 65268 1 1 1610 65281 1 32 33 65313 1 26 97",
   "65339 1 36 91 65375 1 2 10629 65377 1 1 46 65378 1 2 12300 65380 1 1 12289 65381 1 1 12539",
   "65382 1 1 12530 65383 1 1 12449 65384 1 1 12451 65385 1 1 12453 65386 1 1 12455 65387 1 1",
   "12457 65388 1 1 12515 65389 1 1 12517 65390 1 1 12519 65391 1 1 12483 65392 1 1 12540 65393",
   "1 1 12450 65394 1 1 12452 65395 1 1 12454 65396 1 1 12456 65397 1 2 12458 65399 1 1 12461",
   "65400 1 1 12463 65401 1 1 12465 65402 1 1 12467 65403 1 1 12469 65404 1 1 12471 65405 1 1",
   "12473 65406 1 1 12475 65407 1 1 12477 65408 1 1 12479 65409 1 1 12481 65410 1 1 12484 65411",
   "1 1 12486 65412 1 1 12488 65413 1 6 12490 65419 1 1 12498 65420 1 1 12501 65421 1 1 12504",
   "65422 1 1 12507 65423 1 5 12510 65428 1 1 12516 65429 1 1 12518 65430 1 6 12520 65436 1 1",
   "12527 65437 1 1 12531 65438 1 2 12441 65441 1 2 4352 65443 2 2 4522 65444 1 1 4354 65446 1 1",
   "4525 65447 1 3 4355 65450 1 6 4528 65456 1 1 4378 65457 1 3 4358 65460 1 1 4385 65461 1 10",
   "4361 65474 1 6 4449 65482 1 6 4455 65490 1 6 4461 65498 1 3 4467 65504 1 2 162 65506 1 1 172",
   "65508 1 1 166 65509 1 1 165 65510 1 1 8361 65512 1 1 9474 65513 1 4 8592 65517 1 1 9632",
   "65518 1 1 9675 66560 1 40 66600 66736 1 36 66776 66928 2 19 66967 66929 2 5 66968 66941 2 7",
   "66980 66957 2 3 66996 66965 1 1 67004 67457 1 2 720 67459 1 1 230 67460 1 1 665 67461 1 1",
   "595 67463 2 2 675 67464 1 1 43878 67466 1 1 676 67467 1 2 598 67469 1 1 7569 67470 1 1 600",
   "67471 1 1 606 67472 1 1 681 67473 1 1 612 67474 1 1 610 67475 1 1 608 67476 1 1 667 67477 1",
   "1 295 67478 1 1 668 67479 1 1 615 67480 1 1 644 67481 1 2 682 67483 1 1 620 67484 1 1 122628",
   "67485 1 1 42894 67486 1 1 622 67487 1 1 122629 67488 1 1 654 67489 1 1 122630 67490 1 1 248",
   "67491 1 2 630 67493 1 1 113 67494 1 1 634 67495 1 1 122632 67496 1 2 637 67498 1 1 640 67499",
   "1 1 680 67500 1 1 678 67501 1 1 43879 67502 1 1 679 67503 1 1 648 67504 1 1 11377 67506 1 1",
   "655 67507 1 2 673 67509 1 1 664 67510 1 3 448 67513 1 1 122634 67514 1 1 122654 68736 1 51",
   "68800 68944 1 22 68976 71840 1 32 71872 93760 1 32 93792 117974 1 26 97 118000 1 10 48",
   "119808 1 26 97 119834 1 26 97 119860 1 26 97 119886 2 13 97 119887 2 3 98 119895 2 9 106",
   "119912 1 26 97 119938 1 26 97 119964 2 2 97 119967 1 1 100 119970 1 1 103 119973 1 2 106",
   "119977 1 4 110 119982 1 8 115 119990 1 4 97 119995 2 11 102 119998 2 3 105 120006 2 5 113",
   "120016 1 26 97 120042 1 26 97 120068 1 2 97 120071 1 4 100 120077 1 8 106 120086 1 7 115",
   "120094 1 26 97 120120 1 2 97 120123 1 4 100 120128 1 5 105 120134 1 1 111 120138 1 7 115",
   "120146 1 26 97 120172 1 26 97 120198 1 26 97 120224 1 26 97 120250 1 26 97 120276 1 26 97",
   "120302 1 26 97 120328 1 26 97 120354 1 26 97 120380 1 26 97 120406 1 26 97 120432 1 26 97",
   "120458 1 26 97 120484 1 1 305 120485 1 1 567 120488 1 17 945 120505 1 1 952 120506 1 7 963",
   "120513 1 1 8711 120514 1 17 945 120531 1 1 963 120532 1 7 963 120539 1 1 8706 120540 1 1 949",
   "120541 1 1 952 120542 1 1 954 120543 1 1 966 120544 1 1 961 120545 1 1 960 120546 1 17 945",
   "120563 1 1 952 120564 1 7 963 120571 1 1 8711 120572 1 17 945 120589 1 1 963 120590 1 7 963",
   "120597 1 1 8706 120598 1 1 949 120599 1 1 952 120600 1 1 954 120601 1 1 966 120602 1 1 961",
   "120603 1 1 960 120604 1 17 945 120621 1 1 952 120622 1 7 963 120629 1 1 8711 120630 1 17 945",
   "120647 1 1 963 120648 1 7 963 120655 1 1 8706 120656 1 1 949 120657 1 1 952 120658 1 1 954",
   "120659 1 1 966 120660 1 1 961 120661 1 1 960 120662 1 17 945 120679 1 1 952 120680 1 7 963",
   "120687 1 1 8711 120688 1 17 945 120705 1 1 963 120706 1 7 963 120713 1 1 8706 120714 1 1 949",
   "120715 1 1 952 120716 1 1 954 120717 1 1 966 120718 1 1 961 120719 1 1 960 120720 1 17 945",
   "120737 1 1 952 120738 1 7 963 120745 1 1 8711 120746 1 17 945 120763 1 1 963 120764 1 7 963",
   "120771 1 1 8706 120772 1 1 949 120773 1 1 952 120774 1 1 954 120775 1 1 966 120776 1 1 961",
   "120777 1 1 960 120778 1 1 989 120779 1 1 989 120782 1 10 48 120792 1 10 48 120802 1 10 48",
   "120812 1 10 48 120822 1 10 48 122928 1 9 1072 122937 1 3 1082 122940 1 11 1086 122951 1 1",
   "1099 122952 1 2 1101 122954 1 1 42633 122955 1 1 1241 122956 1 1 1110 122957 1 1 1112 122958",
   "1 1 1257 122959 1 1 1199 122960 1 1 1231 122961 1 9 1072 122970 1 2 1082 122972 1 2 1086",
   "122974 1 1 1089 122975 1 6 1091 122981 1 2 1098 122983 1 1 1169 122984 1 1 1110 122985 1 1",
   "1109 122986 1 1 1119 122987 1 1 1195 122988 1 1 42577 122989 1 1 1201 125184 1 34 125218",
   "126464 1 2 1575 126466 1 1 1580 126467 1 1 1583 126469 1 1 1608 126470 1 1 1586 126471 1 1",
   "1581 126472 1 1 1591 126473 1 1 1610 126474 1 4 1603 126478 1 1 1587 126479 1 1 1593 126480",
   "1 1 1601 126481 1 1 1589 126482 1 1 1602 126483 1 1 1585 126484 1 1 1588 126485 1 2 1578",
   "126487 1 1 1582 126488 1 1 1584 126489 1 1 1590 126490 1 1 1592 126491 1 1 1594 126492 1 1",
   "1646 126493 1 1 1722 126494 1 1 1697 126495 1 1 1647 126497 1 1 1576 126498 1 1 1580 126500",
   "1 1 1607 126503 1 1 1581 126505 1 1 1610 126506 1 4 1603 126510 1 1 1587 126511 1 1 1593",
   "126512 1 1 1601 126513 1 1 1589 126514 1 1 1602 126516 1 1 1588 126517 1 2 1578 126519 1 1",
   "1582 126521 1 1 1590 126523 1 1 1594 126530 1 1 1580 126535 1 1 1581 126537 1 1 1610 126539",
   "2 2 1604 126542 1 1 1587 126543 1 1 1593 126545 1 1 1589 126546 1 1 1602 126548 1 1 1588",
   "126551 1 1 1582 126553 1 1 1590 126555 1 1 1594 126557 1 1 1722 126559 1 1 1647 126561 1 1",
   "1576 126562 1 1 1580 126564 1 1 1607 126567 1 1 1581 126568 1 1 1591 126569 1 1 1610 126570",
   "2 2 1603 126573 1 1 1606 126574 1 1 1587 126575 1 1 1593 126576 1 1 1601 126577 1 1 1589",
   "126578 1 1 1602 126580 1 1 1588 126581 1 2 1578 126583 1 1 1582 126585 1 1 1590 126586 1 1",
   "1592 126587 1 1 1594 126588 1 1 1646 126590 1 1 1697 126592 1 2 1575 126594 1 1 1580 126595",
   "1 1 1583 126596 1 2 1607 126598 1 1 1586 126599 1 1 1581 126600 1 1 1591 126601 1 1 1610",
   "126603 1 3 1604 126606 1 1 1587 126607 1 1 1593 126608 1 1 1601 126609 1 1 1589 126610 1 1",
   "1602 126611 1 1 1585 126612 1 1 1588 126613 1 2 1578 126615 1 1 1582 126616 1 1 1584 126617",
   "1 1 1590 126618 1 1 1592 126619 1 1 1594 126625 1 1 1576 126626 1 1 1580 126627 1 1 1583",
   "126629 1 1 1608 126630 1 1 1586 126631 1 1 1581 126632 1 1 1591 126633 1 1 1610 126635 1 3",
   "1604 126638 1 1 1587 126639 1 1 1593 126640 1 1 1601 126641 1 1 1589 126642 1 1 1602 126643",
   "1 1 1585 126644 1 1 1588 126645 1 2 1578 126647 1 1 1582 126648 1 1 1584 126649 1 1 1590",
   "126650 1 1 1592 126651 1 1 1594 127275 1 1 99 127276 1 1 114 127280 1 26 97 127490 1 1 12469",
   "127504 1 1 25163 127505 1 1 23383 127506 1 1 21452 127507 1 1 12487 127508 1 1 20108 127509",
   "1 1 22810 127510 1 1 35299 127511 1 1 22825 127512 1 1 20132 127513 1 1 26144 127514 1 1",
   "28961 127515 1 1 26009 127516 1 1 21069 127517 1 1 24460 127518 1 1 20877 127519 1 1 26032",
   "127520 1 1 21021 127521 1 1 32066 127522 1 1 29983 127523 1 1 36009 127524 1 1 22768 127525",
   "1 1 21561 127526 1 1 28436 127527 1 1 25237 127528 1 1 25429 127529 1 1 19968 127530 1 1",
   "19977 127531 1 1 36938 127532 1 1 24038 127533 1 1 20013 127534 1 1 21491 127535 1 1 25351",
   "127536 1 1 36208 127537 1 1 25171 127538 1 1 31105 127539 1 1 31354 127540 1 1 21512 127541",
   "1 1 28288 127542 1 1 26377 127543 1 1 26376 127544 1 1 30003 127545 1 1 21106 127546 1 1",
   "21942 127547 1 1 37197 127568 1 1 24471 127569 1 1 21487 130032 1 10 48"]

/-- The characters that are replaced by several. -/
def expansions : List (Nat × List Char) :=
  expansionsOfGroups <| groups <| List.flatMap (fun s => Text.Runs.numerals none s.toList)
  ["168 32 776 0 175 32 772 0 180 32 769 0 184 32 807 0 188 49 8260 52 0 189 49 8260 50 0 190 51",
   "8260 52 0 306 105 106 0 307 105 106 0 319 108 183 0 320 108 183 0 329 700 110 0 452 100 382",
   "0 453 100 382 0 454 100 382 0 455 108 106 0 456 108 106 0 457 108 106 0 458 110 106 0 459",
   "110 106 0 460 110 106 0 497 100 122 0 498 100 122 0 499 100 122 0 728 32 774 0 729 32 775 0",
   "730 32 778 0 731 32 808 0 732 32 771 0 733 32 779 0 890 32 953 0 900 32 769 0 1415 1381 1410",
   "0 1653 1575 1652 0 1654 1608 1652 0 1655 1735 1652 0 1656 1610 1652 0 3635 3661 3634 0 3763",
   "3789 3762 0 3804 3755 3737 0 3805 3755 3745 0 3959 4018 3953 3968 0 3961 4019 3953 3968 0",
   "7834 97 702 0 8125 32 787 0 8127 32 787 0 8128 32 834 0 8190 32 788 0 8215 32 819 0 8243",
   "8242 8242 0 8244 8242 8242 8242 0 8246 8245 8245 0 8247 8245 8245 8245 0 8252 33 33 0 8254",
   "32 773 0 8263 63 63 0 8264 63 33 0 8265 33 63 0 8279 8242 8242 8242 8242 0 8360 114 115 0",
   "8448 97 47 99 0 8449 97 47 115 0 8451 176 99 0 8453 99 47 111 0 8454 99 47 117 0 8457 176",
   "102 0 8470 110 111 0 8480 115 109 0 8481 116 101 108 0 8482 116 109 0 8507 102 97 120 0 8528",
   "49 8260 55 0 8529 49 8260 57 0 8530 49 8260 49 48 0 8531 49 8260 51 0 8532 50 8260 51 0 8533",
   "49 8260 53 0 8534 50 8260 53 0 8535 51 8260 53 0 8536 52 8260 53 0 8537 49 8260 54 0 8538 53",
   "8260 54 0 8539 49 8260 56 0 8540 51 8260 56 0 8541 53 8260 56 0 8542 55 8260 56 0 8543 49",
   "8260 0 8545 105 105 0 8546 105 105 105 0 8547 105 118 0 8549 118 105 0 8550 118 105 105 0",
   "8551 118 105 105 105 0 8552 105 120 0 8554 120 105 0 8555 120 105 105 0 8561 105 105 0 8562",
   "105 105 105 0 8563 105 118 0 8565 118 105 0 8566 118 105 105 0 8567 118 105 105 105 0 8568",
   "105 120 0 8570 120 105 0 8571 120 105 105 0 8585 48 8260 51 0 8748 8747 8747 0 8749 8747",
   "8747 8747 0 8751 8750 8750 0 8752 8750 8750 8750 0 9321 49 48 0 9322 49 49 0 9323 49 50 0",
   "9324 49 51 0 9325 49 52 0 9326 49 53 0 9327 49 54 0 9328 49 55 0 9329 49 56 0 9330 49 57 0",
   "9331 50 48 0 9332 40 49 41 0 9333 40 50 41 0 9334 40 51 41 0 9335 40 52 41 0 9336 40 53 41 0",
   "9337 40 54 41 0 9338 40 55 41 0 9339 40 56 41 0 9340 40 57 41 0 9341 40 49 48 41 0 9342 40",
   "49 49 41 0 9343 40 49 50 41 0 9344 40 49 51 41 0 9345 40 49 52 41 0 9346 40 49 53 41 0 9347",
   "40 49 54 41 0 9348 40 49 55 41 0 9349 40 49 56 41 0 9350 40 49 57 41 0 9351 40 50 48 41 0",
   "9372 40 97 41 0 9373 40 98 41 0 9374 40 99 41 0 9375 40 100 41 0 9376 40 101 41 0 9377 40",
   "102 41 0 9378 40 103 41 0 9379 40 104 41 0 9380 40 105 41 0 9381 40 106 41 0 9382 40 107 41",
   "0 9383 40 108 41 0 9384 40 109 41 0 9385 40 110 41 0 9386 40 111 41 0 9387 40 112 41 0 9388",
   "40 113 41 0 9389 40 114 41 0 9390 40 115 41 0 9391 40 116 41 0 9392 40 117 41 0 9393 40 118",
   "41 0 9394 40 119 41 0 9395 40 120 41 0 9396 40 121 41 0 9397 40 122 41 0 10764 8747 8747",
   "8747 8747 0 10868 58 58 61 0 10869 61 61 0 10870 61 61 61 0 12443 32 12441 0 12444 32 12442",
   "0 12447 12424 12426 0 12543 12467 12488 0 12800 40 4352 41 0 12801 40 4354 41 0 12802 40",
   "4355 41 0 12803 40 4357 41 0 12804 40 4358 41 0 12805 40 4359 41 0 12806 40 4361 41 0 12807",
   "40 4363 41 0 12808 40 4364 41 0 12809 40 4366 41 0 12810 40 4367 41 0 12811 40 4368 41 0",
   "12812 40 4369 41 0 12813 40 4370 41 0 12814 40 44032 41 0 12815 40 45208 41 0 12816 40 45796",
   "41 0 12817 40 46972 41 0 12818 40 47560 41 0 12819 40 48148 41 0 12820 40 49324 41 0 12821",
   "40 50500 41 0 12822 40 51088 41 0 12823 40 52264 41 0 12824 40 52852 41 0 12825 40 53440 41",
   "0 12826 40 54028 41 0 12827 40 54616 41 0 12828 40 51452 41 0 12829 40 50724 51204 41 0",
   "12830 40 50724 54980 41 0 12832 40 19968 41 0 12833 40 20108 41 0 12834 40 19977 41 0 12835",
   "40 22235 41 0 12836 40 20116 41 0 12837 40 20845 41 0 12838 40 19971 41 0 12839 40 20843 41",
   "0 12840 40 20061 41 0 12841 40 21313 41 0 12842 40 26376 41 0 12843 40 28779 41 0 12844 40",
   "27700 41 0 12845 40 26408 41 0 12846 40 37329 41 0 12847 40 22303 41 0 12848 40 26085 41 0",
   "12849 40 26666 41 0 12850 40 26377 41 0 12851 40 31038 41 0 12852 40 21517 41 0 12853 40",
   "29305 41 0 12854 40 36001 41 0 12855 40 31069 41 0 12856 40 21172 41 0 12857 40 20195 41 0",
   "12858 40 21628 41 0 12859 40 23398 41 0 12860 40 30435 41 0 12861 40 20225 41 0 12862 40",
   "36039 41 0 12863 40 21332 41 0 12864 40 31085 41 0 12865 40 20241 41 0 12866 40 33258 41 0",
   "12867 40 33267 41 0 12880 112 116 101 0 12881 50 49 0 12882 50 50 0 12883 50 51 0 12884 50",
   "52 0 12885 50 53 0 12886 50 54 0 12887 50 55 0 12888 50 56 0 12889 50 57 0 12890 51 48 0",
   "12891 51 49 0 12892 51 50 0 12893 51 51 0 12894 51 52 0 12895 51 53 0 12924 52280 44256 0",
   "12925 51452 51032 0 12977 51 54 0 12978 51 55 0 12979 51 56 0 12980 51 57 0 12981 52 48 0",
   "12982 52 49 0 12983 52 50 0 12984 52 51 0 12985 52 52 0 12986 52 53 0 12987 52 54 0 12988 52",
   "55 0 12989 52 56 0 12990 52 57 0 12991 53 48 0 12992 49 26376 0 12993 50 26376 0 12994 51",
   "26376 0 12995 52 26376 0 12996 53 26376 0 12997 54 26376 0 12998 55 26376 0 12999 56 26376 0",
   "13000 57 26376 0 13001 49 48 26376 0 13002 49 49 26376 0 13003 49 50 26376 0 13004 104 103 0",
   "13005 101 114 103 0 13006 101 118 0 13007 108 116 100 0 13055 20196 21644 0 13056 12450",
   "12497 12540 12488 0 13057 12450 12523 12501 12449 0 13058 12450 12531 12506 12450 0 13059",
   "12450 12540 12523 0 13060 12452 12491 12531 12464 0 13061 12452 12531 12481 0 13062 12454",
   "12457 12531 0 13063 12456 12473 12463 12540 12489 0 13064 12456 12540 12459 12540 0 13065",
   "12458 12531 12473 0 13066 12458 12540 12512 0 13067 12459 12452 12522 0 13068 12459 12521",
   "12483 12488 0 13069 12459 12525 12522 12540 0 13070 12460 12525 12531 0 13071 12460 12531",
   "12510 0 13072 12462 12460 0 13073 12462 12491 12540 0 13074 12461 12517 12522 12540 0 13075",
   "12462 12523 12480 12540 0 13076 12461 12525 0 13077 12461 12525 12464 12521 12512 0 13078",
   "12461 12525 12513 12540 12488 12523 0 13079 12461 12525 12527 12483 12488 0 13080 12464",
   "12521 12512 0 13081 12464 12521 12512 12488 12531 0 13082 12463 12523 12476 12452 12525 0",
   "13083 12463 12525 12540 12493 0 13084 12465 12540 12473 0 13085 12467 12523 12490 0 13086",
   "12467 12540 12509 0 13087 12469 12452 12463 12523 0 13088 12469 12531 12481 12540 12512 0",
   "13089 12471 12522 12531 12464 0 13090 12475 12531 12481 0 13091 12475 12531 12488 0 13092",
   "12480 12540 12473 0 13093 12487 12471 0 13094 12489 12523 0 13095 12488 12531 0 13096 12490",
   "12494 0 13097 12494 12483 12488 0 13098 12495 12452 12484 0 13099 12497 12540 12475 12531",
   "12488 0 13100 12497 12540 12484 0 13101 12496 12540 12524 12523 0 13102 12500 12450 12473",
   "12488 12523 0 13103 12500 12463 12523 0 13104 12500 12467 0 13105 12499 12523 0 13106 12501",
   "12449 12521 12483 12489 0 13107 12501 12451 12540 12488 0 13108 12502 12483 12471 12455",
   "12523 0 13109 12501 12521 12531 0 13110 12504 12463 12479 12540 12523 0 13111 12506 12477 0",
   "13112 12506 12491 12498 0 13113 12504 12523 12484 0 13114 12506 12531 12473 0 13115 12506",
   "12540 12472 0 13116 12505 12540 12479 0 13117 12509 12452 12531 12488 0 13118 12508 12523",
   "12488 0 13119 12507 12531 0 13120 12509 12531 12489 0 13121 12507 12540 12523 0 13122 12507",
   "12540 12531 0 13123 12510 12452 12463 12525 0 13124 12510 12452 12523 0 13125 12510 12483",
   "12495 0 13126 12510 12523 12463 0 13127 12510 12531 12471 12519 12531 0 13128 12511 12463",
   "12525 12531 0 13129 12511 12522 0 13130 12511 12522 12496 12540 12523 0 13131 12513 12460 0",
   "13132 12513 12460 12488 12531 0 13133 12513 12540 12488 12523 0 13134 12516 12540 12489 0",
   "13135 12516 12540 12523 0 13136 12518 12450 12531 0 13137 12522 12483 12488 12523 0 13138",
   "12522 12521 0 13139 12523 12500 12540 0 13140 12523 12540 12502 12523 0 13141 12524 12512 0",
   "13142 12524 12531 12488 12466 12531 0 13143 12527 12483 12488 0 13144 48 28857 0 13145 49",
   "28857 0 13146 50 28857 0 13147 51 28857 0 13148 52 28857 0 13149 53 28857 0 13150 54 28857 0",
   "13151 55 28857 0 13152 56 28857 0 13153 57 28857 0 13154 49 48 28857 0 13155 49 49 28857 0",
   "13156 49 50 28857 0 13157 49 51 28857 0 13158 49 52 28857 0 13159 49 53 28857 0 13160 49 54",
   "28857 0 13161 49 55 28857 0 13162 49 56 28857 0 13163 49 57 28857 0 13164 50 48 28857 0",
   "13165 50 49 28857 0 13166 50 50 28857 0 13167 50 51 28857 0 13168 50 52 28857 0 13169 104",
   "112 97 0 13170 100 97 0 13171 97 117 0 13172 98 97 114 0 13173 111 118 0 13174 112 99 0",
   "13175 100 109 0 13176 100 109 50 0 13177 100 109 51 0 13178 105 117 0 13179 24179 25104 0",
   "13180 26157 21644 0 13181 22823 27491 0 13182 26126 27835 0 13183 26666 24335 20250 31038 0",
   "13184 112 97 0 13185 110 97 0 13186 956 97 0 13187 109 97 0 13188 107 97 0 13189 107 98 0",
   "13190 109 98 0 13191 103 98 0 13192 99 97 108 0 13193 107 99 97 108 0 13194 112 102 0 13195",
   "110 102 0 13196 956 102 0 13197 956 103 0 13198 109 103 0 13199 107 103 0 13200 104 122 0",
   "13201 107 104 122 0 13202 109 104 122 0 13203 103 104 122 0 13204 116 104 122 0 13205 956",
   "108 0 13206 109 108 0 13207 100 108 0 13208 107 108 0 13209 102 109 0 13210 110 109 0 13211",
   "956 109 0 13212 109 109 0 13213 99 109 0 13214 107 109 0 13215 109 109 50 0 13216 99 109 50",
   "0 13217 109 50 0 13218 107 109 50 0 13219 109 109 51 0 13220 99 109 51 0 13221 109 51 0",
   "13222 107 109 51 0 13223 109 8725 115 0 13224 109 8725 115 50 0 13225 112 97 0 13226 107 112",
   "97 0 13227 109 112 97 0 13228 103 112 97 0 13229 114 97 100 0 13230 114 97 100 8725 115 0",
   "13231 114 97 100 8725 115 50 0 13232 112 115 0 13233 110 115 0 13234 956 115 0 13235 109 115",
   "0 13236 112 118 0 13237 110 118 0 13238 956 118 0 13239 109 118 0 13240 107 118 0 13241 109",
   "118 0 13242 112 119 0 13243 110 119 0 13244 956 119 0 13245 109 119 0 13246 107 119 0 13247",
   "109 119 0 13248 107 969 0 13249 109 969 0 13251 98 113 0 13252 99 99 0 13253 99 100 0 13254",
   "99 8725 107 103 0 13256 100 98 0 13257 103 121 0 13258 104 97 0 13259 104 112 0 13260 105",
   "110 0 13261 107 107 0 13262 107 109 0 13263 107 116 0 13264 108 109 0 13265 108 110 0 13266",
   "108 111 103 0 13267 108 120 0 13268 109 98 0 13269 109 105 108 0 13270 109 111 108 0 13271",
   "112 104 0 13273 112 112 109 0 13274 112 114 0 13275 115 114 0 13276 115 118 0 13277 119 98 0",
   "13278 118 8725 109 0 13279 97 8725 109 0 13280 49 26085 0 13281 50 26085 0 13282 51 26085 0",
   "13283 52 26085 0 13284 53 26085 0 13285 54 26085 0 13286 55 26085 0 13287 56 26085 0 13288",
   "57 26085 0 13289 49 48 26085 0 13290 49 49 26085 0 13291 49 50 26085 0 13292 49 51 26085 0",
   "13293 49 52 26085 0 13294 49 53 26085 0 13295 49 54 26085 0 13296 49 55 26085 0 13297 49 56",
   "26085 0 13298 49 57 26085 0 13299 50 48 26085 0 13300 50 49 26085 0 13301 50 50 26085 0",
   "13302 50 51 26085 0 13303 50 52 26085 0 13304 50 53 26085 0 13305 50 54 26085 0 13306 50 55",
   "26085 0 13307 50 56 26085 0 13308 50 57 26085 0 13309 51 48 26085 0 13310 51 49 26085 0",
   "13311 103 97 108 0 64256 102 102 0 64257 102 105 0 64258 102 108 0 64259 102 102 105 0 64260",
   "102 102 108 0 64261 115 116 0 64262 115 116 0 64275 1396 1398 0 64276 1396 1381 0 64277 1396",
   "1387 0 64278 1406 1398 0 64279 1396 1389 0 64335 1488 1500 0 64477 1735 1652 0 64490 1574",
   "1575 0 64491 1574 1575 0 64492 1574 1749 0 64493 1574 1749 0 64494 1574 1608 0 64495 1574",
   "1608 0 64496 1574 1735 0 64497 1574 1735 0 64498 1574 1734 0 64499 1574 1734 0 64500 1574",
   "1736 0 64501 1574 1736 0 64502 1574 1744 0 64503 1574 1744 0 64504 1574 1744 0 64505 1574",
   "1609 0 64506 1574 1609 0 64507 1574 1609 0 64512 1574 1580 0 64513 1574 1581 0 64514 1574",
   "1605 0 64515 1574 1609 0 64516 1574 1610 0 64517 1576 1580 0 64518 1576 1581 0 64519 1576",
   "1582 0 64520 1576 1605 0 64521 1576 1609 0 64522 1576 1610 0 64523 1578 1580 0 64524 1578",
   "1581 0 64525 1578 1582 0 64526 1578 1605 0 64527 1578 1609 0 64528 1578 1610 0 64529 1579",
   "1580 0 64530 1579 1605 0 64531 1579 1609 0 64532 1579 1610 0 64533 1580 1581 0 64534 1580",
   "1605 0 64535 1581 1580 0 64536 1581 1605 0 64537 1582 1580 0 64538 1582 1581 0 64539 1582",
   "1605 0 64540 1587 1580 0 64541 1587 1581 0 64542 1587 1582 0 64543 1587 1605 0 64544 1589",
   "1581 0 64545 1589 1605 0 64546 1590 1580 0 64547 1590 1581 0 64548 1590 1582 0 64549 1590",
   "1605 0 64550 1591 1581 0 64551 1591 1605 0 64552 1592 1605 0 64553 1593 1580 0 64554 1593",
   "1605 0 64555 1594 1580 0 64556 1594 1605 0 64557 1601 1580 0 64558 1601 1581 0 64559 1601",
   "1582 0 64560 1601 1605 0 64561 1601 1609 0 64562 1601 1610 0 64563 1602 1581 0 64564 1602",
   "1605 0 64565 1602 1609 0 64566 1602 1610 0 64567 1603 1575 0 64568 1603 1580 0 64569 1603",
   "1581 0 64570 1603 1582 0 64571 1603 1604 0 64572 1603 1605 0 64573 1603 1609 0 64574 1603",
   "1610 0 64575 1604 1580 0 64576 1604 1581 0 64577 1604 1582 0 64578 1604 1605 0 64579 1604",
   "1609 0 64580 1604 1610 0 64581 1605 1580 0 64582 1605 1581 0 64583 1605 1582 0 64584 1605",
   "1605 0 64585 1605 1609 0 64586 1605 1610 0 64587 1606 1580 0 64588 1606 1581 0 64589 1606",
   "1582 0 64590 1606 1605 0 64591 1606 1609 0 64592 1606 1610 0 64593 1607 1580 0 64594 1607",
   "1605 0 64595 1607 1609 0 64596 1607 1610 0 64597 1610 1580 0 64598 1610 1581 0 64599 1610",
   "1582 0 64600 1610 1605 0 64601 1610 1609 0 64602 1610 1610 0 64603 1584 1648 0 64604 1585",
   "1648 0 64605 1609 1648 0 64606 32 1612 1617 0 64607 32 1613 1617 0 64608 32 1614 1617 0",
   "64609 32 1615 1617 0 64610 32 1616 1617 0 64611 32 1617 1648 0 64612 1574 1585 0 64613 1574",
   "1586 0 64614 1574 1605 0 64615 1574 1606 0 64616 1574 1609 0 64617 1574 1610 0 64618 1576",
   "1585 0 64619 1576 1586 0 64620 1576 1605 0 64621 1576 1606 0 64622 1576 1609 0 64623 1576",
   "1610 0 64624 1578 1585 0 64625 1578 1586 0 64626 1578 1605 0 64627 1578 1606 0 64628 1578",
   "1609 0 64629 1578 1610 0 64630 1579 1585 0 64631 1579 1586 0 64632 1579 1605 0 64633 1579",
   "1606 0 64634 1579 1609 0 64635 1579 1610 0 64636 1601 1609 0 64637 1601 1610 0 64638 1602",
   "1609 0 64639 1602 1610 0 64640 1603 1575 0 64641 1603 1604 0 64642 1603 1605 0 64643 1603",
   "1609 0 64644 1603 1610 0 64645 1604 1605 0 64646 1604 1609 0 64647 1604 1610 0 64648 1605",
   "1575 0 64649 1605 1605 0 64650 1606 1585 0 64651 1606 1586 0 64652 1606 1605 0 64653 1606",
   "1606 0 64654 1606 1609 0 64655 1606 1610 0 64656 1609 1648 0 64657 1610 1585 0 64658 1610",
   "1586 0 64659 1610 1605 0 64660 1610 1606 0 64661 1610 1609 0 64662 1610 1610 0 64663 1574",
   "1580 0 64664 1574 1581 0 64665 1574 1582 0 64666 1574 1605 0 64667 1574 1607 0 64668 1576",
   "1580 0 64669 1576 1581 0 64670 1576 1582 0 64671 1576 1605 0 64672 1576 1607 0 64673 1578",
   "1580 0 64674 1578 1581 0 64675 1578 1582 0 64676 1578 1605 0 64677 1578 1607 0 64678 1579",
   "1605 0 64679 1580 1581 0 64680 1580 1605 0 64681 1581 1580 0 64682 1581 1605 0 64683 1582",
   "1580 0 64684 1582 1605 0 64685 1587 1580 0 64686 1587 1581 0 64687 1587 1582 0 64688 1587",
   "1605 0 64689 1589 1581 0 64690 1589 1582 0 64691 1589 1605 0 64692 1590 1580 0 64693 1590",
   "1581 0 64694 1590 1582 0 64695 1590 1605 0 64696 1591 1581 0 64697 1592 1605 0 64698 1593",
   "1580 0 64699 1593 1605 0 64700 1594 1580 0 64701 1594 1605 0 64702 1601 1580 0 64703 1601",
   "1581 0 64704 1601 1582 0 64705 1601 1605 0 64706 1602 1581 0 64707 1602 1605 0 64708 1603",
   "1580 0 64709 1603 1581 0 64710 1603 1582 0 64711 1603 1604 0 64712 1603 1605 0 64713 1604",
   "1580 0 64714 1604 1581 0 64715 1604 1582 0 64716 1604 1605 0 64717 1604 1607 0 64718 1605",
   "1580 0 64719 1605 1581 0 64720 1605 1582 0 64721 1605 1605 0 64722 1606 1580 0 64723 1606",
   "1581 0 64724 1606 1582 0 64725 1606 1605 0 64726 1606 1607 0 64727 1607 1580 0 64728 1607",
   "1605 0 64729 1607 1648 0 64730 1610 1580 0 64731 1610 1581 0 64732 1610 1582 0 64733 1610",
   "1605 0 64734 1610 1607 0 64735 1574 1605 0 64736 1574 1607 0 64737 1576 1605 0 64738 1576",
   "1607 0 64739 1578 1605 0 64740 1578 1607 0 64741 1579 1605 0 64742 1579 1607 0 64743 1587",
   "1605 0 64744 1587 1607 0 64745 1588 1605 0 64746 1588 1607 0 64747 1603 1604 0 64748 1603",
   "1605 0 64749 1604 1605 0 64750 1606 1605 0 64751 1606 1607 0 64752 1610 1605 0 64753 1610",
   "1607 0 64754 1600 1614 1617 0 64755 1600 1615 1617 0 64756 1600 1616 1617 0 64757 1591 1609",
   "0 64758 1591 1610 0 64759 1593 1609 0 64760 1593 1610 0 64761 1594 1609 0 64762 1594 1610 0",
   "64763 1587 1609 0 64764 1587 1610 0 64765 1588 1609 0 64766 1588 1610 0 64767 1581 1609 0",
   "64768 1581 1610 0 64769 1580 1609 0 64770 1580 1610 0 64771 1582 1609 0 64772 1582 1610 0",
   "64773 1589 1609 0 64774 1589 1610 0 64775 1590 1609 0 64776 1590 1610 0 64777 1588 1580 0",
   "64778 1588 1581 0 64779 1588 1582 0 64780 1588 1605 0 64781 1588 1585 0 64782 1587 1585 0",
   "64783 1589 1585 0 64784 1590 1585 0 64785 1591 1609 0 64786 1591 1610 0 64787 1593 1609 0",
   "64788 1593 1610 0 64789 1594 1609 0 64790 1594 1610 0 64791 1587 1609 0 64792 1587 1610 0",
   "64793 1588 1609 0 64794 1588 1610 0 64795 1581 1609 0 64796 1581 1610 0 64797 1580 1609 0",
   "64798 1580 1610 0 64799 1582 1609 0 64800 1582 1610 0 64801 1589 1609 0 64802 1589 1610 0",
   "64803 1590 1609 0 64804 1590 1610 0 64805 1588 1580 0 64806 1588 1581 0 64807 1588 1582 0",
   "64808 1588 1605 0 64809 1588 1585 0 64810 1587 1585 0 64811 1589 1585 0 64812 1590 1585 0",
   "64813 1588 1580 0 64814 1588 1581 0 64815 1588 1582 0 64816 1588 1605 0 64817 1587 1607 0",
   "64818 1588 1607 0 64819 1591 1605 0 64820 1587 1580 0 64821 1587 1581 0 64822 1587 1582 0",
   "64823 1588 1580 0 64824 1588 1581 0 64825 1588 1582 0 64826 1591 1605 0 64827 1592 1605 0",
   "64828 1575 1611 0 64829 1575 1611 0 64848 1578 1580 1605 0 64849 1578 1581 1580 0 64850 1578",
   "1581 1580 0 64851 1578 1581 1605 0 64852 1578 1582 1605 0 64853 1578 1605 1580 0 64854 1578",
   "1605 1581 0 64855 1578 1605 1582 0 64856 1580 1605 1581 0 64857 1580 1605 1581 0 64858 1581",
   "1605 1610 0 64859 1581 1605 1609 0 64860 1587 1581 1580 0 64861 1587 1580 1581 0 64862 1587",
   "1580 1609 0 64863 1587 1605 1581 0 64864 1587 1605 1581 0 64865 1587 1605 1580 0 64866 1587",
   "1605 1605 0 64867 1587 1605 1605 0 64868 1589 1581 1581 0 64869 1589 1581 1581 0 64870 1589",
   "1605 1605 0 64871 1588 1581 1605 0 64872 1588 1581 1605 0 64873 1588 1580 1610 0 64874 1588",
   "1605 1582 0 64875 1588 1605 1582 0 64876 1588 1605 1605 0 64877 1588 1605 1605 0 64878 1590",
   "1581 1609 0 64879 1590 1582 1605 0 64880 1590 1582 1605 0 64881 1591 1605 1581 0 64882 1591",
   "1605 1581 0 64883 1591 1605 1605 0 64884 1591 1605 1610 0 64885 1593 1580 1605 0 64886 1593",
   "1605 1605 0 64887 1593 1605 1605 0 64888 1593 1605 1609 0 64889 1594 1605 1605 0 64890 1594",
   "1605 1610 0 64891 1594 1605 1609 0 64892 1601 1582 1605 0 64893 1601 1582 1605 0 64894 1602",
   "1605 1581 0 64895 1602 1605 1605 0 64896 1604 1581 1605 0 64897 1604 1581 1610 0 64898 1604",
   "1581 1609 0 64899 1604 1580 1580 0 64900 1604 1580 1580 0 64901 1604 1582 1605 0 64902 1604",
   "1582 1605 0 64903 1604 1605 1581 0 64904 1604 1605 1581 0 64905 1605 1581 1580 0 64906 1605",
   "1581 1605 0 64907 1605 1581 1610 0 64908 1605 1580 1581 0 64909 1605 1580 1605 0 64910 1605",
   "1582 1580 0 64911 1605 1582 1605 0 64914 1605 1580 1582 0 64915 1607 1605 1580 0 64916 1607",
   "1605 1605 0 64917 1606 1581 1605 0 64918 1606 1581 1609 0 64919 1606 1580 1605 0 64920 1606",
   "1580 1605 0 64921 1606 1580 1609 0 64922 1606 1605 1610 0 64923 1606 1605 1609 0 64924 1610",
   "1605 1605 0 64925 1610 1605 1605 0 64926 1576 1582 1610 0 64927 1578 1580 1610 0 64928 1578",
   "1580 1609 0 64929 1578 1582 1610 0 64930 1578 1582 1609 0 64931 1578 1605 1610 0 64932 1578",
   "1605 1609 0 64933 1580 1605 1610 0 64934 1580 1581 1609 0 64935 1580 1605 1609 0 64936 1587",
   "1582 1609 0 64937 1589 1581 1610 0 64938 1588 1581 1610 0 64939 1590 1581 1610 0 64940 1604",
   "1580 1610 0 64941 1604 1605 1610 0 64942 1610 1581 1610 0 64943 1610 1580 1610 0 64944 1610",
   "1605 1610 0 64945 1605 1605 1610 0 64946 1602 1605 1610 0 64947 1606 1581 1610 0 64948 1602",
   "1605 1581 0 64949 1604 1581 1605 0 64950 1593 1605 1610 0 64951 1603 1605 1610 0 64952 1606",
   "1580 1581 0 64953 1605 1582 1610 0 64954 1604 1580 1605 0 64955 1603 1605 1605 0 64956 1604",
   "1580 1605 0 64957 1606 1580 1581 0 64958 1580 1581 1610 0 64959 1581 1580 1610 0 64960 1605",
   "1580 1610 0 64961 1601 1605 1610 0 64962 1576 1581 1610 0 64963 1603 1605 1605 0 64964 1593",
   "1580 1605 0 64965 1589 1605 1605 0 64966 1587 1582 1610 0 64967 1606 1580 1610 0 65008 1589",
   "1604 1746 0 65009 1602 1604 1746 0 65010 1575 1604 1604 1607 0 65011 1575 1603 1576 1585 0",
   "65012 1605 1581 1605 1583 0 65013 1589 1604 1593 1605 0 65014 1585 1587 1608 1604 0 65015",
   "1593 1604 1610 1607 0 65016 1608 1587 1604 1605 0 65017 1589 1604 1609 0 65018 1589 1604",
   "1609 32 1575 1604 1604 1607 32 1593 1604 1610 1607 32 1608 1587 1604 1605 0 65019 1580 1604",
   "32 1580 1604 1575 1604 1607 0 65020 1585 1740 1575 1604 0 65097 32 773 0 65098 32 773 0",
   "65099 32 773 0 65100 32 773 0 65136 32 1611 0 65137 1600 1611 0 65138 32 1612 0 65140 32",
   "1613 0 65142 32 1614 0 65143 1600 1614 0 65144 32 1615 0 65145 1600 1615 0 65146 32 1616 0",
   "65147 1600 1616 0 65148 32 1617 0 65149 1600 1617 0 65150 32 1618 0 65151 1600 1618 0 65269",
   "1604 1570 0 65270 1604 1570 0 65271 1604 1571 0 65272 1604 1571 0 65273 1604 1573 0 65274",
   "1604 1573 0 65275 1604 1575 0 65276 1604 1575 0 65507 32 772 0 127233 48 44 0 127234 49 44 0",
   "127235 50 44 0 127236 51 44 0 127237 52 44 0 127238 53 44 0 127239 54 44 0 127240 55 44 0",
   "127241 56 44 0 127242 57 44 0 127248 40 97 41 0 127249 40 98 41 0 127250 40 99 41 0 127251",
   "40 100 41 0 127252 40 101 41 0 127253 40 102 41 0 127254 40 103 41 0 127255 40 104 41 0",
   "127256 40 105 41 0 127257 40 106 41 0 127258 40 107 41 0 127259 40 108 41 0 127260 40 109 41",
   "0 127261 40 110 41 0 127262 40 111 41 0 127263 40 112 41 0 127264 40 113 41 0 127265 40 114",
   "41 0 127266 40 115 41 0 127267 40 116 41 0 127268 40 117 41 0 127269 40 118 41 0 127270 40",
   "119 41 0 127271 40 120 41 0 127272 40 121 41 0 127273 40 122 41 0 127274 12308 115 12309 0",
   "127277 99 100 0 127278 119 122 0 127306 104 118 0 127307 109 118 0 127308 115 100 0 127309",
   "115 115 0 127310 112 112 118 0 127311 119 99 0 127338 109 99 0 127339 109 100 0 127340 109",
   "114 0 127376 100 106 0 127488 12411 12363 0 127489 12467 12467 0 127552 12308 26412 12309 0",
   "127553 12308 19977 12309 0 127554 12308 20108 12309 0 127555 12308 23433 12309 0 127556",
   "12308 28857 12309 0 127557 12308 25171 12309 0 127558 12308 30423 12309 0 127559 12308 21213",
   "12309 0 127560 12308 25943 12309 0"]

/-- The characters that are left out. -/
def droppedRuns : Text.Runs := .ofLines
  ["173 1 673 1 3599 2 1619 2 85 5 2043 1 84 5 5 6 4340 1 52379 16 239 1 160 1 48383 4 5327 8",
   "798597 240"]

/-- The characters that are kept, of those that are neither replaced nor left out. -/
def keptRuns : Text.Runs := .ofLines
  ["0 128 33 727 3 3 51 383 41 50 2 3 1 55 8 27 4 6 17 22 1 192 1 48 2 59 2 101 14 59 2 49 2 15",
   "1 28 2 1 1 11 5 31 8 75 1 161 1 8 2 2 2 22 1 7 1 1 3 4 2 9 2 2 4 2 8 1 8 4 2 25 2 3 1 6 4 2",
   "2 22 1 7 1 1 2 1 2 2 2 1 1 5 4 2 2 3 3 1 10 1 9 17 10 3 1 9 1 3 1 22 1 7 1 2 1 5 2 10 1 3 1",
   "3 2 1 15 4 2 12 7 7 1 3 1 8 2 2 2 22 1 7 1 2 1 5 2 9 2 1 5 1 7 3 7 5 2 18 10 2 1 6 3 3 1 4 3",
   "2 1 1 1 2 3 2 3 3 3 12 4 5 3 3 4 1 2 1 6 1 14 21 5 13 1 3 1 23 1 16 2 9 1 2 2 4 7 2 1 3 2 1",
   "2 4 2 10 7 22 1 3 1 23 1 10 1 5 2 9 1 1 5 2 7 2 6 2 1 4 2 10 1 3 12 13 1 3 1 51 1 3 4 3 4 16",
   "2 26 1 3 1 18 3 24 1 9 1 1 2 7 3 1 4 6 1 1 1 8 6 10 2 3 12 58 4 29 37 2 1 1 1 5 1 24 1 1 1",
   "23 2 5 1 1 1 7 1 10 4 2 32 72 1 36 4 39 1 36 1 15 1 13 37 160 48 377 1 4 2 7 1 1 1 4 2 41 1",
   "4 2 33 1 4 2 7 1 1 1 4 2 15 1 57 1 4 2 67 2 32 3 26 6 86 10 640 1 28 3 89 7 22 9 24 9 20 12",
   "13 1 3 1 2 12 94 2 10 6 10 6 26 6 89 7 43 5 70 10 31 1 12 4 12 4 1 3 42 2 5 11 44 4 26 6 11",
   "3 62 2 65 1 29 2 11 6 10 6 14 2 31 49 77 1 166 8 60 3 15 3 62 53 8 8 43 5 512 268 2 2 20 3 1",
   "8 47 65 33 15 33 19 136 4 666 22 11 160 1673 2 32 1 349 5 45 1 1 5 1 2 56 8 1 14 24 9 7 1 7",
   "1 7 1 7 1 7 1 7 1 7 1 7 1 126 34 26 1 88 270 63 1 86 2 101 7 43 96 86 10 16 72 56 384 28813",
   "3 55 9 348 21 183 8 206 9 5 26 55 3 10 6 56 8 70 8 12 6 116 11 30 3 78 1 11 4 33 1 55 9 14 2",
   "10 2 103 24 28 10 6 2 6 2 6 9 7 1 7 1 60 84 46 2 10 11190 23 4 49 8722 28 244 1 147 17 379",
   "18 127 1 45 3 32 16 21 2 44 1 396 12 1 26 1 19 1 2 1 15 2 14 34 123 5 3 4 45 3 88 1 13 3 1",
   "47 46 130 29 3 49 15 28 4 36 9 30 5 43 5 30 1 37 4 14 82 118 2 10 46 36 4 40 8 52 11 1 39 11",
   "1 15 1 7 1 2 3 52 12 311 9 22 10 8 24 1 127 6 2 1 1 44 1 2 3 1 2 23 1 72 8 9 48 19 1 2 5 33",
   "3 27 5 1 64 56 4 20 2 50 1 2 5 8 1 3 1 29 2 3 4 10 7 9 7 64 32 39 4 12 9 54 3 29 2 27 5 26 7",
   "4 12 7 80 73 119 51 7 46 8 10 6 16 25 29 8 2 208 31 1 42 1 3 2 2 16 3 55 44 8 42 22 26 38 28",
   "20 23 9 78 4 36 9 62 1 5 13 25 7 10 6 53 1 18 8 39 9 96 1 20 11 18 1 47 62 7 1 1 1 4 1 15 1",
   "11 6 59 5 10 6 4 1 8 2 2 2 22 1 7 1 2 1 5 1 10 2 2 4 1 2 1 6 1 5 7 2 7 3 5 11 10 1 1 4 38 1",
   "10 1 1 6 2 1 10 1 2 8 2 29 92 1 5 30 72 8 10 166 54 2 38 34 69 11 10 6 13 19 58 6 10 6 20 28",
   "27 2 15 4 23 185 60 132 51 12 8 2 1 2 8 1 2 1 30 1 1 3 12 9 10 70 8 2 46 2 11 27 72 8 83 13",
   "73 7 10 182 34 14 10 6 9 1 45 1 14 10 29 3 32 2 22 1 14 73 7 1 2 1 44 3 1 1 2 1 9 8 10 6 6 1",
   "2 1 37 1 2 1 6 7 10 310 25 7 17 1 41 3 29 85 1 15 50 13 923 102 111 1 5 11 196 2636 99 13",
   "1072 16 22 10 3995 5 583 6841 58 1734 569 7 31 1 10 4 81 1 10 6 30 2 6 10 70 10 10 1 7 1 21",
   "5 19 432 58 230 59 101 75 4 57 7 17 64 5 11 2 14 6136 8 1238 41 10 8935 4 1 7 1 2 1 291 15 1",
   "29 3 2 1 14 4 8 396 2308 107 5 13 3 9 7 10 2 4 3936 214 42 436 76 46 2 23 9 116 60 246 10 39",
   "2 194 21 70 122 20 12 20 12 87 9 25 1159 652 15 5 1 15 1104 31 6 6 213 7 1 17 2 7 1 2 1 5",
   "100 1 112 45 3 14 2 10 4 2 320 31 17 58 5 1 464 42 214 43 4 1 480 7 1 4 1 2 1 15 1 197 2 16",
   "75 42 4 10 4 2 785 68 76 61 434 2 270 44 4 100 12 15 2 15 1 15 1 37 21 163 56 26 96 6 154",
   "984 4 17 3 13 3 119 4 95 6 12 4 1 15 12 4 56 8 10 6 40 8 30 2 12 4 2 62 340 12 14 2 13 3 10",
   "5 56 7 15 2 11 6 9 7 147 1 92 1040 42720 32 4154 6 222 2 5762 14 7473 15 622 4514 4939 5",
   "4192"]

/-- What becomes of a character without a canonical decomposition. -/
def mapped (c : Char) : Mapped :=
  let n := c.toNat
  match shifts.find? (·.covers n), expansions.find? (·.1 == n) with
  | some s, _ => .replaced [Char.ofNat (s.target + (n - s.first))]
  | none, some e => .replaced e.2
  | none, none =>
    if droppedRuns.contains n then .dropped
    else if keptRuns.contains n then .kept
    else .refused

end Postbox.Url
