import BenchTracker.Unicode.Letter

/-!
# Lower case

The lower case of a text. One character becomes two, and the capital sigma depends on what stands
around it: at the end of a word it becomes the final form.
-/

namespace BenchTracker

namespace Unicode

/-- Characters beyond ASCII with a lower case of their own: the distance from the one before, and
the lower case. -/
def lowerTable : String := "
  192 224 1 225 1 226 1 227 1 228 1 229 1 230 1 231 1 232 1 233 1 234 1 235 1 236 1 237 1 238 1
  239 1 240 1 241 1 242 1 243 1 244 1 245 1 246 2 248 1 249 1 250 1 251 1 252 1 253 1 254 34 257
  2 259 2 261 2 263 2 265 2 267 2 269 2 271 2 273 2 275 2 277 2 279 2 281 2 283 2 285 2 287 2
  289 2 291 2 293 2 295 2 297 2 299 2 301 2 303 4 307 2 309 2 311 3 314 2 316 2 318 2 320 2 322
  2 324 2 326 2 328 3 331 2 333 2 335 2 337 2 339 2 341 2 343 2 345 2 347 2 349 2 351 2 353 2
  355 2 357 2 359 2 361 2 363 2 365 2 367 2 369 2 371 2 373 2 375 2 255 1 378 2 380 2 382 4 595
  1 387 2 389 2 596 1 392 2 598 1 599 1 396 3 477 1 601 1 603 1 402 2 608 1 611 2 617 1 616 1
  409 4 623 1 626 2 629 1 417 2 419 2 421 2 640 1 424 2 643 3 429 2 648 1 432 2 650 1 651 1 436
  2 438 2 658 1 441 4 445 8 454 1 454 2 457 1 457 2 460 1 460 2 462 2 464 2 466 2 468 2 470 2
  472 2 474 2 476 3 479 2 481 2 483 2 485 2 487 2 489 2 491 2 493 2 495 3 499 1 499 2 501 2 405
  1 447 1 505 2 507 2 509 2 511 2 513 2 515 2 517 2 519 2 521 2 523 2 525 2 527 2 529 2 531 2
  533 2 535 2 537 2 539 2 541 2 543 2 414 2 547 2 549 2 551 2 553 2 555 2 557 2 559 2 561 2 563
  8 11365 1 572 2 410 1 11366 3 578 2 384 1 649 1 652 1 583 2 585 2 587 2 589 2 591 290 881 2
  883 4 887 9 1011 7 940 2 941 1 942 1 943 2 972 2 973 1 974 2 945 1 946 1 947 1 948 1 949 1 950
  1 951 1 952 1 953 1 954 1 955 1 956 1 957 1 958 1 959 1 960 1 961 2 963 1 964 1 965 1 966 1
  967 1 968 1 969 1 970 1 971 36 983 9 985 2 987 2 989 2 991 2 993 2 995 2 997 2 999 2 1001 2
  1003 2 1005 2 1007 6 952 3 1016 2 1010 1 1019 3 891 1 892 1 893 1 1104 1 1105 1 1106 1 1107 1
  1108 1 1109 1 1110 1 1111 1 1112 1 1113 1 1114 1 1115 1 1116 1 1117 1 1118 1 1119 1 1072 1
  1073 1 1074 1 1075 1 1076 1 1077 1 1078 1 1079 1 1080 1 1081 1 1082 1 1083 1 1084 1 1085 1
  1086 1 1087 1 1088 1 1089 1 1090 1 1091 1 1092 1 1093 1 1094 1 1095 1 1096 1 1097 1 1098 1
  1099 1 1100 1 1101 1 1102 1 1103 49 1121 2 1123 2 1125 2 1127 2 1129 2 1131 2 1133 2 1135 2
  1137 2 1139 2 1141 2 1143 2 1145 2 1147 2 1149 2 1151 2 1153 10 1163 2 1165 2 1167 2 1169 2
  1171 2 1173 2 1175 2 1177 2 1179 2 1181 2 1183 2 1185 2 1187 2 1189 2 1191 2 1193 2 1195 2
  1197 2 1199 2 1201 2 1203 2 1205 2 1207 2 1209 2 1211 2 1213 2 1215 2 1231 1 1218 2 1220 2
  1222 2 1224 2 1226 2 1228 2 1230 3 1233 2 1235 2 1237 2 1239 2 1241 2 1243 2 1245 2 1247 2
  1249 2 1251 2 1253 2 1255 2 1257 2 1259 2 1261 2 1263 2 1265 2 1267 2 1269 2 1271 2 1273 2
  1275 2 1277 2 1279 2 1281 2 1283 2 1285 2 1287 2 1289 2 1291 2 1293 2 1295 2 1297 2 1299 2
  1301 2 1303 2 1305 2 1307 2 1309 2 1311 2 1313 2 1315 2 1317 2 1319 2 1321 2 1323 2 1325 2
  1327 3 1377 1 1378 1 1379 1 1380 1 1381 1 1382 1 1383 1 1384 1 1385 1 1386 1 1387 1 1388 1
  1389 1 1390 1 1391 1 1392 1 1393 1 1394 1 1395 1 1396 1 1397 1 1398 1 1399 1 1400 1 1401 1
  1402 1 1403 1 1404 1 1405 1 1406 1 1407 1 1408 1 1409 1 1410 1 1411 1 1412 1 1413 1 1414 2890
  11520 1 11521 1 11522 1 11523 1 11524 1 11525 1 11526 1 11527 1 11528 1 11529 1 11530 1 11531
  1 11532 1 11533 1 11534 1 11535 1 11536 1 11537 1 11538 1 11539 1 11540 1 11541 1 11542 1
  11543 1 11544 1 11545 1 11546 1 11547 1 11548 1 11549 1 11550 1 11551 1 11552 1 11553 1 11554
  1 11555 1 11556 1 11557 2 11559 6 11565 723 43888 1 43889 1 43890 1 43891 1 43892 1 43893 1
  43894 1 43895 1 43896 1 43897 1 43898 1 43899 1 43900 1 43901 1 43902 1 43903 1 43904 1 43905
  1 43906 1 43907 1 43908 1 43909 1 43910 1 43911 1 43912 1 43913 1 43914 1 43915 1 43916 1
  43917 1 43918 1 43919 1 43920 1 43921 1 43922 1 43923 1 43924 1 43925 1 43926 1 43927 1 43928
  1 43929 1 43930 1 43931 1 43932 1 43933 1 43934 1 43935 1 43936 1 43937 1 43938 1 43939 1
  43940 1 43941 1 43942 1 43943 1 43944 1 43945 1 43946 1 43947 1 43948 1 43949 1 43950 1 43951
  1 43952 1 43953 1 43954 1 43955 1 43956 1 43957 1 43958 1 43959 1 43960 1 43961 1 43962 1
  43963 1 43964 1 43965 1 43966 1 43967 1 5112 1 5113 1 5114 1 5115 1 5116 1 5117 2196 7306 7
  4304 1 4305 1 4306 1 4307 1 4308 1 4309 1 4310 1 4311 1 4312 1 4313 1 4314 1 4315 1 4316 1
  4317 1 4318 1 4319 1 4320 1 4321 1 4322 1 4323 1 4324 1 4325 1 4326 1 4327 1 4328 1 4329 1
  4330 1 4331 1 4332 1 4333 1 4334 1 4335 1 4336 1 4337 1 4338 1 4339 1 4340 1 4341 1 4342 1
  4343 1 4344 1 4345 1 4346 3 4349 1 4350 1 4351 321 7681 2 7683 2 7685 2 7687 2 7689 2 7691 2
  7693 2 7695 2 7697 2 7699 2 7701 2 7703 2 7705 2 7707 2 7709 2 7711 2 7713 2 7715 2 7717 2
  7719 2 7721 2 7723 2 7725 2 7727 2 7729 2 7731 2 7733 2 7735 2 7737 2 7739 2 7741 2 7743 2
  7745 2 7747 2 7749 2 7751 2 7753 2 7755 2 7757 2 7759 2 7761 2 7763 2 7765 2 7767 2 7769 2
  7771 2 7773 2 7775 2 7777 2 7779 2 7781 2 7783 2 7785 2 7787 2 7789 2 7791 2 7793 2 7795 2
  7797 2 7799 2 7801 2 7803 2 7805 2 7807 2 7809 2 7811 2 7813 2 7815 2 7817 2 7819 2 7821 2
  7823 2 7825 2 7827 2 7829 10 223 2 7841 2 7843 2 7845 2 7847 2 7849 2 7851 2 7853 2 7855 2
  7857 2 7859 2 7861 2 7863 2 7865 2 7867 2 7869 2 7871 2 7873 2 7875 2 7877 2 7879 2 7881 2
  7883 2 7885 2 7887 2 7889 2 7891 2 7893 2 7895 2 7897 2 7899 2 7901 2 7903 2 7905 2 7907 2
  7909 2 7911 2 7913 2 7915 2 7917 2 7919 2 7921 2 7923 2 7925 2 7927 2 7929 2 7931 2 7933 2
  7935 10 7936 1 7937 1 7938 1 7939 1 7940 1 7941 1 7942 1 7943 9 7952 1 7953 1 7954 1 7955 1
  7956 1 7957 11 7968 1 7969 1 7970 1 7971 1 7972 1 7973 1 7974 1 7975 9 7984 1 7985 1 7986 1
  7987 1 7988 1 7989 1 7990 1 7991 9 8000 1 8001 1 8002 1 8003 1 8004 1 8005 12 8017 2 8019 2
  8021 2 8023 9 8032 1 8033 1 8034 1 8035 1 8036 1 8037 1 8038 1 8039 25 8064 1 8065 1 8066 1
  8067 1 8068 1 8069 1 8070 1 8071 9 8080 1 8081 1 8082 1 8083 1 8084 1 8085 1 8086 1 8087 9
  8096 1 8097 1 8098 1 8099 1 8100 1 8101 1 8102 1 8103 9 8112 1 8113 1 8048 1 8049 1 8115 12
  8050 1 8051 1 8052 1 8053 1 8131 12 8144 1 8145 1 8054 1 8055 13 8160 1 8161 1 8058 1 8059 1
  8165 12 8056 1 8057 1 8060 1 8061 1 8179 298 969 4 107 1 229 7 8526 46 8560 1 8561 1 8562 1
  8563 1 8564 1 8565 1 8566 1 8567 1 8568 1 8569 1 8570 1 8571 1 8572 1 8573 1 8574 1 8575 20
  8580 819 9424 1 9425 1 9426 1 9427 1 9428 1 9429 1 9430 1 9431 1 9432 1 9433 1 9434 1 9435 1
  9436 1 9437 1 9438 1 9439 1 9440 1 9441 1 9442 1 9443 1 9444 1 9445 1 9446 1 9447 1 9448 1
  9449 1841 11312 1 11313 1 11314 1 11315 1 11316 1 11317 1 11318 1 11319 1 11320 1 11321 1
  11322 1 11323 1 11324 1 11325 1 11326 1 11327 1 11328 1 11329 1 11330 1 11331 1 11332 1 11333
  1 11334 1 11335 1 11336 1 11337 1 11338 1 11339 1 11340 1 11341 1 11342 1 11343 1 11344 1
  11345 1 11346 1 11347 1 11348 1 11349 1 11350 1 11351 1 11352 1 11353 1 11354 1 11355 1 11356
  1 11357 1 11358 1 11359 49 11361 2 619 1 7549 1 637 3 11368 2 11370 2 11372 2 593 1 625 1 592
  1 594 2 11379 3 11382 9 575 1 576 1 11393 2 11395 2 11397 2 11399 2 11401 2 11403 2 11405 2
  11407 2 11409 2 11411 2 11413 2 11415 2 11417 2 11419 2 11421 2 11423 2 11425 2 11427 2 11429
  2 11431 2 11433 2 11435 2 11437 2 11439 2 11441 2 11443 2 11445 2 11447 2 11449 2 11451 2
  11453 2 11455 2 11457 2 11459 2 11461 2 11463 2 11465 2 11467 2 11469 2 11471 2 11473 2 11475
  2 11477 2 11479 2 11481 2 11483 2 11485 2 11487 2 11489 2 11491 9 11500 2 11502 5 11507 31054
  42561 2 42563 2 42565 2 42567 2 42569 2 42571 2 42573 2 42575 2 42577 2 42579 2 42581 2 42583
  2 42585 2 42587 2 42589 2 42591 2 42593 2 42595 2 42597 2 42599 2 42601 2 42603 2 42605 20
  42625 2 42627 2 42629 2 42631 2 42633 2 42635 2 42637 2 42639 2 42641 2 42643 2 42645 2 42647
  2 42649 2 42651 136 42787 2 42789 2 42791 2 42793 2 42795 2 42797 2 42799 4 42803 2 42805 2
  42807 2 42809 2 42811 2 42813 2 42815 2 42817 2 42819 2 42821 2 42823 2 42825 2 42827 2 42829
  2 42831 2 42833 2 42835 2 42837 2 42839 2 42841 2 42843 2 42845 2 42847 2 42849 2 42851 2
  42853 2 42855 2 42857 2 42859 2 42861 2 42863 11 42874 2 42876 2 7545 1 42879 2 42881 2 42883
  2 42885 2 42887 5 42892 2 613 3 42897 2 42899 4 42903 2 42905 2 42907 2 42909 2 42911 2 42913
  2 42915 2 42917 2 42919 2 42921 2 614 1 604 1 609 1 620 1 618 2 670 1 647 1 669 1 43859 1
  42933 2 42935 2 42937 2 42939 2 42941 2 42943 2 42945 2 42947 2 42900 1 642 1 7566 1 42952 2
  42954 2 612 1 42957 2 42959 2 42961 2 42963 2 42965 2 42967 2 42969 2 42971 2 411 25 42998
  22316 65345 1 65346 1 65347 1 65348 1 65349 1 65350 1 65351 1 65352 1 65353 1 65354 1 65355 1
  65356 1 65357 1 65358 1 65359 1 65360 1 65361 1 65362 1 65363 1 65364 1 65365 1 65366 1 65367
  1 65368 1 65369 1 65370 1222 66600 1 66601 1 66602 1 66603 1 66604 1 66605 1 66606 1 66607 1
  66608 1 66609 1 66610 1 66611 1 66612 1 66613 1 66614 1 66615 1 66616 1 66617 1 66618 1 66619
  1 66620 1 66621 1 66622 1 66623 1 66624 1 66625 1 66626 1 66627 1 66628 1 66629 1 66630 1
  66631 1 66632 1 66633 1 66634 1 66635 1 66636 1 66637 1 66638 1 66639 137 66776 1 66777 1
  66778 1 66779 1 66780 1 66781 1 66782 1 66783 1 66784 1 66785 1 66786 1 66787 1 66788 1 66789
  1 66790 1 66791 1 66792 1 66793 1 66794 1 66795 1 66796 1 66797 1 66798 1 66799 1 66800 1
  66801 1 66802 1 66803 1 66804 1 66805 1 66806 1 66807 1 66808 1 66809 1 66810 1 66811 157
  66967 1 66968 1 66969 1 66970 1 66971 1 66972 1 66973 1 66974 1 66975 1 66976 1 66977 2 66979
  1 66980 1 66981 1 66982 1 66983 1 66984 1 66985 1 66986 1 66987 1 66988 1 66989 1 66990 1
  66991 1 66992 1 66993 2 66995 1 66996 1 66997 1 66998 1 66999 1 67000 1 67001 2 67003 1 67004
  1771 68800 1 68801 1 68802 1 68803 1 68804 1 68805 1 68806 1 68807 1 68808 1 68809 1 68810 1
  68811 1 68812 1 68813 1 68814 1 68815 1 68816 1 68817 1 68818 1 68819 1 68820 1 68821 1 68822
  1 68823 1 68824 1 68825 1 68826 1 68827 1 68828 1 68829 1 68830 1 68831 1 68832 1 68833 1
  68834 1 68835 1 68836 1 68837 1 68838 1 68839 1 68840 1 68841 1 68842 1 68843 1 68844 1 68845
  1 68846 1 68847 1 68848 1 68849 1 68850 158 68976 1 68977 1 68978 1 68979 1 68980 1 68981 1
  68982 1 68983 1 68984 1 68985 1 68986 1 68987 1 68988 1 68989 1 68990 1 68991 1 68992 1 68993
  1 68994 1 68995 1 68996 1 68997 2875 71872 1 71873 1 71874 1 71875 1 71876 1 71877 1 71878 1
  71879 1 71880 1 71881 1 71882 1 71883 1 71884 1 71885 1 71886 1 71887 1 71888 1 71889 1 71890
  1 71891 1 71892 1 71893 1 71894 1 71895 1 71896 1 71897 1 71898 1 71899 1 71900 1 71901 1
  71902 1 71903 21889 93792 1 93793 1 93794 1 93795 1 93796 1 93797 1 93798 1 93799 1 93800 1
  93801 1 93802 1 93803 1 93804 1 93805 1 93806 1 93807 1 93808 1 93809 1 93810 1 93811 1 93812
  1 93813 1 93814 1 93815 1 93816 1 93817 1 93818 1 93819 1 93820 1 93821 1 93822 1 93823 65
  93883 1 93884 1 93885 1 93886 1 93887 1 93888 1 93889 1 93890 1 93891 1 93892 1 93893 1 93894
  1 93895 1 93896 1 93897 1 93898 1 93899 1 93900 1 93901 1 93902 1 93903 1 93904 1 93905 1
  93906 1 93907 31304 125218 1 125219 1 125220 1 125221 1 125222 1 125223 1 125224 1 125225 1
  125226 1 125227 1 125228 1 125229 1 125230 1 125231 1 125232 1 125233 1 125234 1 125235 1
  125236 1 125237 1 125238 1 125239 1 125240 1 125241 1 125242 1 125243 1 125244 1 125245 1
  125246 1 125247 1 125248 1 125249 1 125250 1 125251"

def lowerPairs : List (Nat × Nat) :=
  let step := fun (acc : Nat × List (Nat × Nat)) (p : Nat × Nat) =>
    (acc.1 + p.1, (acc.1 + p.1, p.2) :: acc.2)
  ((pairUp (numbers lowerTable)).foldl step (0, [])).2.reverse

/-- The characters that are passed over when the case of a neighbour is looked for. -/
def caseIgnorableRanges : Ranges :=
  Ranges.unionAll [Category.nonspacingMark, Category.enclosingMark, Category.format,
    Category.modifierLetter, Category.modifierSymbol,
    Ranges.decode "
    39 0 6 0 11 0 124 0 719 0 471 0 148 0 6691 1 10 0 2 0 56811 0 62 0 2 0 177 0 6 0 11 0"]

/-- The lower case of a character on its own. -/
def lowerChar (c : Char) : List Char :=
  if c.toNat < 128 then [c.toLower]
  else if c = 'İ' then ['i', '\u0307']
  else match lowerPairs.find? (·.1 == c.toNat) with
    | some (_, l) => [Char.ofNat l]
    | none => [c]

/-- Whether the first character that is not ignored in matters of case is cased. -/
def meetsCased (s : List Char) : Bool :=
  match s.dropWhile (fun c => caseIgnorableRanges.contains c.toNat) with
  | c :: _ => casedRanges.contains c.toNat
  | [] => false

/-- The lower case of `after`, where `before` stands in front of it, nearest character first. -/
def lowerFrom (before : List Char) : List Char → List Char
  | [] => []
  | c :: after =>
    (if c = 'Σ' then [if meetsCased before && ! meetsCased after then 'ς' else 'σ']
      else lowerChar c) ++ lowerFrom (c :: before) after

def toLower (s : List Char) : List Char := lowerFrom [] s

end Unicode

end BenchTracker
