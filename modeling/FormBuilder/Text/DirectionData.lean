import FormBuilder.Text.Ranges
/-! Writing directions of characters. -/
namespace FormBuilder.Text

def leftRanges : Ranges := .ofText
    "41 19 7 19 30 0 b 0 5 0 6 16 2 1e 2 1c0 3 6 f 1 f 4 a 0 82 3 3 1 3 3 2 0 7 0 2 2 2 0 2 13 2 52 2
    8b 8 a5 2 25 3 30 37a 36 2 0 2 3 9 3 2 2 8 9 3 1c 2 1 2 7 3 1 3 15 2 6 2 0 4 3 4 3 7 1 3 1 2 0 9
    0 5 1 2 2 5 b 3 6 2 1 6 0 2 5 5 1 3 15 2 6 2 1 2 1 2 1 5 2 19 3 2 0 8 9 3 2 2 0 d 0 2 8 2 2 2 15
    2 6 2 1 2 4 4 3 9 0 2 1 4 0 10 1 5 a 9 0 9 1 2 7 3 1 3 15 2 6 2 1 2 4 4 1 2 0 7 1 3 1 b 0 5 1 2
    2 5 11 c 0 2 5 4 2 2 3 4 1 2 0 2 1 4 1 4 2 4 b 5 1 2 1 4 2 2 2 4 0 7 0 f c f 2 2 7 2 2 2 16 2 f
    4 0 4 3 14 2 3 0 3 1 5 9 8 0 8 1 2 a 2 2 2 16 2 9 2 4 4 7 2 2 2 1 a 1 7 1 2 1 5 9 2 1 10 a 2 2 2
    28 3 3 6 2 2 2 2 1 5 d 5 19 3 1 2 11 4 17 2 8 2 0 3 6 9 2 7 7 7 9 3 2 d 2f 2 1 d 6 9 c 26 1 2 0
    2 4 2 17 2 0 2 9 2 1 a 0 3 4 2 0 a 9 3 3 21 17 3 1a 2 0 2 0 6 9 2 23 13 0 6 0 3 4 32 7 2 5 2 c
    26 2c 5 0 7 0 3 1 3 18 3 3 4 f 5 c 2 1 3 5 2 e 2 27 2 0 6 0 3 178 2 3 3 6 2 0 2 3 3 28 2 3 3 20
    2 3 3 6 2 0 2 3 3 e 2 38 2 3 3 42 6 1c 4 f 11 55 3 5 4 27e 2 19 6 58 8 11 4 0 a 12 3 2 a 11 f c
    2 2 10 33 3 0 8 7 2 1 c 6 2 0 4 9 27 9 7 58 8 4 3 21 2 0 6 45 b 1e 5 3 3 2 5 1 2 5 e 27 3 4 c 2b
    5 19 7 a 26 16 3 1 4 37 2 0 a 0 2 1 9 5 e 9 7 9 7 d 57 2f 2 0 6 0 2 4 2 9 4 1a a a 4 1f 5 1 3 0
    4 37 2 0 3 2 2 0 4 1 9 2f 9 1 6 e 4 3b 8 2a 3 a c 0 e 0 8 3 2 5 2 2 3 0 6 bf 41 115 3 5 3 25 3 5
    3 7 2 0 2 0 2 0 2 1e 3 34 2 6 2 0 4 2 2 6 4 3 3 5 5 c 6 2 2 6 12 0 63 0 e 0 11 c 66 0 5 0 3 9 2
    0 4 4 7 0 2 0 2 0 2 3 2 a 3 3 6 4 5 1 11 28 1ae 44 1b 0 107 4d 1c3 0 154 ff 301 e4 7 3 4 1 d 25
    2 0 6 0 3 37 8 1 10 16 a 6 2 6 2 6 2 6 2 6 2 6 2 6 2 6 227 2 1a 8 5 1 2 4 3 4 5 55 7 2 2 59 2 3
    6 2a 2 5d 2 2f 31 2c 4 2f 11 1b 4 31 10 b 5 a6 5 62 3 1e 2 19bf 41 568c 44 13c 4 1b 15 2e 12 1d
    3 4f 3 5 2b 65 2 41 6 1 2 0 2 4 19 f 2 2 2 3 2 18 3 0 9 7 9 33 d 43 b b 19 c 2 25 9 18 c 1 c 1d
    7 2f 2 1 5 1 3 f 2 a 5 6 2 18 2 28 7 1 3 1 c 2 2 7 2 0 3 9 3 1f 2 32 2 0 4 1 3 4 3 0 2 0 19 10 3
    7 c 5 3 5 3 5 a 6 2 6 2 39 7 74 2 1 2 3 4 9 7 2ba3 d 16 5 30 805 1a6d 3 69 27 6 d 4 40a 19 7 19
    c 58 4 5 3 5 3 5 3 2 24 b 2 19 2 12 2 1 2 e 3 d 23 7a 6 0 2 0 5 2c 4 8 4e 1 42 2c 84 1c 4 30 30
    23 a 1d 6 25 b 1d 2 24 5 d 2b 9d 3 9 7 23 5 23 5 27 9 33 c b 2 e 2 6 2 1 2 a 2 e 2 6 2 1 44 136
    a 15 b 7 19 5 2 29 2 8 846 0 2 35 10 6 19 9 2 1 3 0 d 30 5 1 3 6 c 0 3 18 8 9 a 23 6 0 a 11 9 22
    2 2 c 33 a 9 5 1 2 f 2 13 c 11 2 1b 4 1 2 0 3 5 43 6 2 0 2 3 2 e 2 a 7 2e 2 2 e 9 9 1 2 7 3 1 3
    15 2 6 2 1 2 4 4 2 2 3 3 1 3 2 3 0 7 0 6 6 9d 37 9 1 4 0 2 14 2 0 2 2 1f 32 7 0 2 3 3 0 3 3 9 9
    a7 31 7 3 3 0 3 1a 25 32 9 1 2 0 3 3 c 9 27 2a 2 0 2 1 7 0 2 1 7 9 37 1a 6 1 5 0 a 16 ba 2e a 0
    3 0 65 52 d 7 3 0 3 7 2 1 2 1d 2 1 5 0 2 3 2 2 a 9 47 7 3 29 9 3 2 3 1c 0 7 1 3 27 7 1 5 7 a 0 7
    1 4 2d e 0 3 8 e 48 108 8 2 25 f 7 b 1c 4 1f 1a 0 8 0 3 0 4c 6 2 1 2 25 16 0 a 9 7 5 2 1 2 24 5
    1 2 0 2 0 8 9 137 12 3 3 b8 0 10 14 2b 39a 67 6e 2 4 c c3 a4d 62 e 42e 2 8 fc8 246 21ba 238 8 1e
    2 9 5 50 2 9 7 1d 8 0 b 2f 8 e b 9 2 6 2 14 6 12 2b1 5a 66 4a 6 37 c c 41 1 2 0 d 1 f 17f7 9 4d5
    2b 8 22e8 3 2 6 2 1 2 122 2e 2 12 3 9 18b 905 6a 6 c 4 8 8 9 3 0 3 0 12b1 73 3d f5 b 26 3 3d 4 8
    11 1 8 1d 5 3a f8 13 6d 18 88 54 2 46 2 1 3 0 3 1 3 3 2 b 2 0 2 6 2 40 2 3 3 7 2 6 2 1b 2 3 2 4
    2 0 4 6 2 153 3 32 2 38 2 38 2 38 2 38 2 7 35 1ff 38 3 33 7 2 d 2 6 475 1e 1e2 2c b 6 3 9 5 1
    141 1d 13 2b 5 9 4e7 6 2 3 2 1 2 e 912 1e 2 39 7 3c 3a 1c e 2b 5 8 8 1 daf a6df 21 1038 8 dd 3
    1681 f 1d30 c20 21d 5e3 134a becb6 fffd 3 fffd"

def rightRanges : Ranges := .ofText
    "5be 0 2 0 3 0 3 0 a 1a 5 5 14 0 3 0 2 0 e 2f 23 2 2 64 10 1 8 1 b 13 2 1 2 1d 1e 58 c 0 f 2a a 1
    5 0 4 17 5 0 a 0 4 0 8 e 2 18 6 0 2 a 6 1e 12 29 1746 0 db0e 0 2 9 2 c 2 4 2 0 2 1 2 1 2 7c 11
    16a 13 3f 3 35 29 c 74 4 2 86 904 5 3 0 2 2b 2 1 4 0 3 16 2 47 9 8 31 12 2 1 6 20 5 19 6 0 41 37
    5 13 3 2e 10 3 2 2 2 1c b 8 8 8 8 3f 21 24 7 b a 35 b 15 3 1a 6 19 8 3 d 6 51 48 38 32 e 32 8 29
    15d 29 4 0 3 1 4f 27 9 15 c 8 17 11 5 3 27 1b 15 16 d80a c4 3 8 31 43 8 0 5 9 5 1 312 43 4d 3c
    c3 3 2 1a 2 1 2 0 3 0 2 9 2 3 2 0 2 0 7 0 5 0 2 0 2 0 2 2 2 1 2 0 3 0 2 0 2 0 2 0 2 0 2 1 2 0 3
    3 2 6 2 3 2 3 2 0 2 9 2 10 6 2 2 4 2 10"

def europeanDigitRanges : Ranges := .ofText
    "30 9 79 1 6 0 637 9 1977 0 4 5 7 9 3ff 13 da75 9 3c8 1a d4d3 31 1901 a ae6 9"

def arabicDigitRanges : Ranges := .ofText
    "600 5 5b 9 2 1 71 0 1b3 1 51 0 1044e 9 127 1e"

def nonspacingRanges : Ranges := .ofText
    "300 6f 114 6 108 2c 2 0 2 1 2 1 2 0 49 a 31 14 11 0 66 6 3 5 3 1 2 3 24 0 1f 1a 5c a 3b 8 a 0 19
    3 2 8 2 2 2 4 2c 2 3d 7 2b 17 2 1f 38 0 2 0 5 7 5 0 4 6 b 1 1e 0 3b 0 5 3 9 0 15 1 1b 0 3 1 3a 0
    5 1 5 1 3 2 4 0 1f 1 4 0 c 1 3a 0 5 4 2 1 5 0 15 1 17 5 2 0 3b 0 3 0 2 3 9 0 8 1 c 1 1f 0 3e 0 d
    0 33 0 4 0 38 0 2 2 6 2 2 3 8 1 c 1 1e 0 3b 0 10 1 15 1 1d 1 3a 1 5 3 9 0 15 1 1e 0 49 0 8 2 2 0
    5b 0 3 6 d 7 63 0 3 8 c 5 4b 1 1c 0 2 0 2 0 38 d 2 4 2 1 6 a 2 23 a 0 67 3 2 5 2 1 3 1 1a 1 5 2
    11 3 e 0 3 1 7 0 10 0 2c0 2 3b3 2 1e 1 1f 1 1f 1 41 1 2 6 9 0 3 a a 0 2e 2 2 0 76 1 23 0 77 2 5
    1 a 0 7 2 dc 1 3 0 3b 0 2 6 2 0 2 0 3 7 7 9 3 0 31 1e 32 3 31 0 2 4 2 0 6 0 29 8 d 1 21 3 3 1 2
    2 39 0 2 1 4 0 2 2 3b 7 3 1 99 2 2 c 2 6 5 0 7 0 4 1 c7 3f 2d1 20 bff 2 8e 0 61 1f 22b 3 6c 1
    75d5 3 2 9 21 1 51 1 111 0 4 0 5 0 1a 1 6 0 98 1 1b 11 e 0 27 7 1a a 2f 2 31 0 3 3 3 1 28 0 44 5
    3 1 3 1 d 0 9 0 30 0 34 0 2 2 3 1 6 1 2 0 2b 1 9 0 ef 0 3 0 5 0 4f31 0 2e2 f 11 f 3ce 0 e3 0 96
    4 687 2 2 1 6 3 29 2 5 0 a6 1 23e 3 184 1 9a a 32 3 7c 0 37 e 2a 0 3 1 b 2 32 3 3 1 8 0 3e 2 25
    4 2 7 3f 0 d 1 35 8 b 3 3 0 60 2 3 0 2 1 7 0 a1 0 4 7 16 1 3a 1 4 0 26 6 4 4 c4 7 3 2 2 0 18 0
    55 5 2 0 5 1 2 1 ef 3 7 1 2 1 1c 1 56 7 3 0 2 1 6b 0 2 0 3 5 2 0 66 2 3 3 2 4 104 8 2 1 101 1 2
    0 5 0 91 3 3 1 5 0 21 5 3 1 29 5 3 3 9 0 a 5 3 2 2f c 2 1 197 6 2 5 55 15 3 6 2 1 2 1 7b 5 4 0 2
    1 2 6 2 0 49 1 4 0 2 0 15c 1 4bfc 4 3c 6 419 0 40 3 52 0 4cb9 1 1262 2d 3 16 221 2 12 7 3 6 1f 3
    95 2 7bc 36 5 31 9 0 f 0 17 4 2 e 551 6 2 10 3 6 2 1 2 4 106 6 178 0 3e 3 5e1 6 6e 6 c17b6 ef"

def neutralRanges : Ranges := .ofText
    "0 8 6 d 6 e b 6 1b 5 1b 9 2 23 2 6 3 0 2 2 3 4 18 0 20 0 1c2 1 8 d 3 d 6 8 2 10 75 1 9 0 6 1 2 0
    6f 0 194 0 3 2 77 1 2 1 2 0 2 1 5b 0 74 0 b 0 10d 3 1f9 1 8 0 f6 0 102 7 7e 6 1c1 0 fb 3 453 9
    67 0 29b 1 13f 0 15 9 7 a 4 0 132 0 4 1 99 21 5be 0 2 2 c 2 e 2 e 2 e 1 d 2 3 17 8 2f 2 4 6 5 b
    4 c 4 12 20 40 1 2 3 2 1 b 0 2 2 6 5 2 0 2 0 2 0 5 0 c 1 5 4 6 3 3 f 2a 2 5 1a5 46 19 2 90 1a a
    16 27 63 1c1 2 152 101 273 3 1f 2 68 e6 5 f 6 101 5d 23 19 2 58 d d5 1b b 6 3 4 18 10 0 6 1 6 2
    5c 1 4 0 5b 0 c5 23 3a 1 32 f 1d 2 33 e d 3 a8 3 64 1 20 0 19c1 3f 5691 36 147 2 64 0 b 1 81 21
    67 0 a0 3 d 1 3b 3 2f3 1 4fbe 0 215 11 80 0 2e 2 11 9 17 22 2 12 2 3 94 0 2 e b 6 1b 5 1b a 7b 6
    2 6 b 4 104 0 3f 4c 4 c 4 0 77f 0 21a 6 513 13 5fb c 969 1c 4ff1 0 4cbe 3 14d0 7 6f 1 16 41 4 0
    bb 56 385 0 3a 0 3a 0 3a 0 3a 0 b3c 0 bf1 1 10f 2b 5 63 d e 3 e 2 e 2 24 16 4 20 0 3b 5 3e 0 b3
    5 9b 3d7 6 f 4 c 4 73 d 58 8 b 5 0 10 b 5 37 9 9 7 27 9 1d 3 1 4f 153 d d 3 4 4 4 4 6 a 1c 4 a 6
    5 b 9 7 7 9 6 a 92 2 36 c0437 0 1f 5f"

end FormBuilder.Text
