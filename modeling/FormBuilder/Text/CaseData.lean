import FormBuilder.Text.Ranges
/-! The lower-case letters of Unicode and the two classes on which the shape of a sigma depends. -/
namespace FormBuilder.Text

def lowerShifts : Shifts := .ofText
    "41 1a 1 20 7f 17 1 20 18 7 1 20 28 18 2 1 32 3 2 1 7 8 2 1 11 17 2 1 2e 1 1 10ff87 1 3 2 1 8 1 1
    d2 1 2 2 1 4 1 1 ce 1 1 1 1 2 2 1 cd 2 1 1 1 3 1 1 4f 1 1 1 ca 1 1 1 cb 1 1 1 1 2 1 1 cd 1 1 1
    cf 2 1 1 d3 1 1 1 d1 1 1 1 1 4 1 1 d3 1 1 1 d5 2 1 1 d6 1 3 2 1 6 1 1 da 1 1 1 1 2 1 1 da 3 1 1
    1 2 1 1 da 1 1 1 1 2 2 1 d9 2 2 2 1 4 1 1 db 1 1 1 1 4 1 1 1 8 1 1 2 1 1 1 1 2 1 1 2 1 1 1 1 2 1
    1 2 1 9 2 1 13 9 2 1 13 1 1 2 1 2 2 1 4 1 1 10ff9f 1 1 1 10ffc8 1 14 2 1 28 1 1 10ff7e 2 9 2 1
    18 1 1 2a2b 1 1 1 1 2 1 1 10ff5d 1 1 1 2a28 3 1 1 1 2 1 1 10ff3d 1 1 1 45 1 1 1 47 1 5 2 1 12a 2
    2 1 6 1 1 1 9 1 1 74 7 1 1 26 2 3 1 25 4 1 1 40 2 2 1 3f 3 11 1 20 12 9 1 20 2c 1 1 8 9 c 2 1 1c
    1 1 10ffc4 3 1 1 1 2 1 1 10fff9 1 1 1 1 3 3 1 10ff7e 3 10 1 50 10 20 1 20 50 11 2 1 2a 1b 2 1 36
    1 1 f 1 7 2 1 f 30 2 1 61 26 1 30 b6f 26 1 1c60 27 1 1 1c60 6 1 1 1c60 2d3 50 1 97d0 50 6 1 8
    8a0 2b 1 10f440 2d 3 1 10f440 143 4b 2 1 9e 1 1 10e241 2 30 2 1 68 8 1 10fff8 10 6 1 10fff8 10 8
    1 10fff8 10 8 1 10fff8 10 6 1 10fff8 11 4 2 10fff8 f 8 1 10fff8 20 8 1 10fff8 10 8 1 10fff8 10 8
    1 10fff8 10 2 1 10fff8 2 2 1 10ffb6 2 1 1 10fff7 c 4 1 10ffaa 4 1 1 10fff7 c 2 1 10fff8 2 2 1
    10ff9c e 2 1 10fff8 2 2 1 10ff90 2 1 1 10fff9 c 2 1 10ff80 2 2 1 10ff82 2 1 1 10fff7 12a 1 1
    10e2a3 4 1 1 10df41 1 1 1 10dfba 7 1 1 1c 2e 10 1 10 23 1 1 1 333 1a 1 1a 74a 30 1 30 60 1 1 1 2
    1 1 10d609 1 1 1 10f11a 1 1 1 10d619 3 3 2 1 6 1 1 10d5e4 1 1 1 10d603 1 1 1 10d5e1 1 1 1 10d5e2
    2 1 1 1 3 1 1 1 9 2 1 10d5c1 2 32 2 1 6b 2 2 1 7 1 1 1 794e 17 2 1 40 e 2 1 a2 7 2 1 10 1f 2 1
    47 2 2 1 4 1 1 1075fc 1 5 2 1 d 1 1 1 2 1 1 105ad8 3 2 2 1 6 a 2 1 14 1 1 105abc 1 1 1 105ab1 1
    1 1 105ab5 1 1 1 105abf 1 1 1 105abc 2 1 1 105aee 1 1 1 105ad6 1 1 1 105aeb 1 1 1 3a0 1 8 2 1 10
    1 1 10ffd0 1 1 1 105abd 1 1 1 1075c8 1 2 2 1 9 1 1 1 6 2 2 1 1f 1 1 1 572c 1a 1 20 4df 28 1 28
    b0 24 1 28 c0 b 1 27 c f 1 27 10 7 1 27 8 2 1 27 6ec 33 1 40 c20 20 1 20 55a0 20 1 20 7ac0 22 1
    22"

def casedRanges : Ranges := .ofText
    "41 19 7 19 30 0 b 0 5 0 6 16 2 1e 2 c2 2 3 5 cf 2 1a c1 3 3 1 4 2 2 0 7 0 2 2 2 0 2 13 2 52 2 8a
    9 a5 2 25 a 28 b18 25 2 0 6 0 3 2a 3 2 2a1 55 3 5 883 8 8 2a 3 2 41 2b 40 c 2 21 66 115 3 5 3 25
    3 5 3 7 2 0 2 0 2 0 2 1e 3 34 2 6 2 0 4 2 2 6 4 3 3 5 5 c 6 2 2 6 106 0 5 0 3 9 2 0 4 4 7 0 2 0
    2 0 2 3 2 5 5 0 3 3 6 4 5 0 12 1f 4 1 332 33 717 7b 3 66 7 3 4 1 d 25 2 0 6 0 7913 2d 13 1b 87
    4d 2 16 4 3 2 3a 6 1 2 0 2 4 1c 1 4 0 336 2a 6 8 8 4f 4f41 6 d 4 40a 19 7 19 4a6 4f 61 23 5 23
    75 a 2 e 2 6 2 1 2 a 2 e 2 6 2 1 6c4 32 e 32 bae 3f 5561 3f 6581 54 2 46 2 1 3 0 3 1 3 3 2 b 2 0
    2 6 2 40 2 3 3 7 2 6 2 1b 2 3 2 4 2 0 4 6 2 153 3 18 2 18 2 1e 2 18 2 1e 2 18 2 1e 2 18 2 1e 2
    18 2 7 735 9 2 13 9e2 43 7ed 19 7 19 7 19"

def caseIgnorableRanges : Ranges := .ofText
    "27 0 7 0 c 0 24 0 2 0 48 0 5 0 2 0 5 0 3 1 1f8 bf 5 1 5 0 a 1 2 0 fc 6 d0 0 6 0 32 2c 2 0 2 1 2
    1 2 0 2d 0 c 5 b a 2 0 24 0 b 14 11 0 66 7 2 9 2 3 22 0 2 0 1f 1a 5c a 3b a 5 0 3 0 19 17 2c 2
    2d 0 8 1 7 7 2a 39 38 0 2 0 5 7 5 0 4 6 b 1 e 0 10 0 3b 0 5 3 9 0 15 1 1b 0 3 1 3a 0 5 1 5 1 3 2
    4 0 1f 1 4 0 c 1 3a 0 5 4 2 1 5 0 15 1 17 5 2 0 3b 0 3 0 2 3 9 0 8 1 c 1 1f 0 3e 0 d 0 33 0 4 0
    38 0 2 2 6 2 2 3 8 1 c 1 1e 0 3b 0 3 0 7 0 6 1 15 1 1d 1 3a 1 5 3 9 0 15 1 1e 0 49 0 8 2 2 0 5b
    0 3 6 c 8 63 0 3 8 a 0 2 5 4b 1 1c 0 2 0 2 0 38 d 2 4 2 1 6 a 2 23 a 0 67 3 2 5 2 1 3 1 1a 1 5 2
    11 3 e 0 3 1 7 0 10 0 5f 0 261 2 3b3 2 1e 1 1f 1 1f 1 41 1 2 6 9 0 3 a 4 0 6 0 2e 4 34 0 42 1 23
    0 77 2 5 1 a 0 7 2 dc 1 3 0 3b 0 2 6 2 0 2 0 3 7 7 9 3 0 28 0 9 1e 32 3 31 0 2 4 2 0 6 0 29 8 d
    1 21 3 3 1 2 2 39 0 2 1 4 0 2 2 3b 7 3 1 41 5 53 2 2 c 2 6 5 0 7 0 4 1 33 3e e 0 23 64 1be 0 2 2
    c 2 e 2 e 2 e 1 d 4 9 1 b 0 3 0 3 4 32 4 2 9 2 0 e 0 11 c 34 20 b8c 1 72 2 7e 0 10 0 61 1f 30 0
    1d6 0 25 3 4 4 6 0 5e 5 5e 2 6f17 0 4e3 5 10f 0 63 3 2 9 2 0 1d 3 51 1 f 21 4f 0 18 2 68 2 4 1 9
    0 4 0 5 0 1a 1 6 0 98 1 1b 11 e 0 27 7 1a a 2f 2 31 0 3 3 3 1 12 0 16 1 43 5 3 1 3 1 d 0 9 0 24
    0 c 0 34 0 2 2 3 1 6 1 2 0 1c 0 f 1 6 1 2 0 65 4 a 2 7a 0 3 0 5 0 4f31 0 94 10 23e f 4 0 d f 23
    0 3 0 aa 0 8 0 7 0 c 0 24 0 2 0 30 0 2e 1 44 0 16 2 202 0 e3 0 96 4 406 5 2 29 2 8 247 2 2 1 6 3
    29 2 5 0 a6 1 23e 3 184 1 9a a 32 3 7c 0 37 e 2a 0 3 1 b 2 32 3 3 1 3 0 5 0 b 0 33 2 25 4 2 7 3f
    0 d 1 35 8 b 3 3 0 60 2 3 0 2 1 7 0 a1 0 4 7 16 1 3a 1 4 0 26 6 4 4 c4 7 3 2 2 0 18 0 55 5 2 0 5
    1 2 1 ef 3 7 1 2 1 1c 1 56 7 3 0 2 1 6b 0 2 0 3 5 2 0 66 2 3 3 2 4 104 8 2 1 101 1 2 0 5 0 91 3
    3 1 5 0 21 9 29 5 3 3 9 0 a 5 3 2 2f c 2 1 197 6 2 5 2 0 53 15 3 6 2 1 2 1 7b 5 4 0 2 1 2 6 2 0
    49 1 4 0 2 0 15c 1 153c 8 36b8 4 3c 6 a 3 40c 0 40 10 41 1 2 1 400c 3 2 6 2 1 c9f 1 2 3 125d 2d
    3 16 221 2 a f 3 6 1f 3 95 2 7bc 36 5 31 9 0 f 0 17 4 2 e 551 6 2 10 3 6 2 1 2 4 106 d 171 0 3e
    3 5e1 6 6e 7 ab0 4 c0c02 0 1f 5f 81 ef"

end FormBuilder.Text
