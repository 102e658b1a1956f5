import FormBuilder.Text.Ranges
/-! Character classes that decide what may stand in a label of an international host name. -/
namespace FormBuilder.Address
open FormBuilder.Text (Ranges)

def labelRanges : Ranges := .ofText
    "2d 0 3 9 28 19 65 17 2 7 2 0 2 0 2 0 2 0 2 0 2 0 2 0 2 0 2 0 2 0 2 0 2 0 2 0 2 0 2 0 2 0 2 0 2 0
    2 0 2 0 2 0 2 0 2 0 2 0 2 0 4 0 2 1 2 0 2 0 2 0 4 0 2 0 2 0 2 0 3 0 2 0 2 0 2 0 2 0 2 0 2 0 2 0
    2 0 2 0 2 0 2 0 2 0 2 0 2 0 2 0 2 0 2 0 2 0 2 0 2 0 2 0 2 0 3 0 2 0 2 0 2 0 3 0 2 0 3 0 4 1 5 0
    3 0 4 2 3 0 3 0 2 0 2 0 3 0 2 1 2 0 3 0 4 0 2 0 3 2 2 6 b 0 2 0 2 0 2 0 2 0 2 0 2 0 2 1 2 0 2 0
    2 0 2 0 2 0 2 0 2 0 2 0 2 1 5 0 4 0 2 0 2 0 2 0 2 0 2 0 2 0 2 0 2 0 2 0 2 0 2 0 2 0 2 0 2 0 2 0
    2 0 2 0 2 0 2 0 2 0 2 0 2 0 2 0 2 0 2 0 2 0 2 0 2 0 2 6 3 0 3 1 2 0 5 0 2 0 2 0 2 0 2 60 a 8 5 b
    1b 0 2 0 12 3f 3 0 4 8 2 1f 2 0 2 0 4 0 4 2 13 0 1c 22 9 0 2 0 2 0 2 0 2 0 2 0 2 0 2 0 2 0 2 0 2
    0 2 0 2 0 4 0 5 0 3 1 34 2f 2 0 2 0 2 0 2 0 2 0 2 0 2 0 2 0 2 0 2 0 2 0 2 0 2 0 2 0 2 0 2 0 2 0
    2 4 4 0 2 0 2 0 2 0 2 0 2 0 2 0 2 0 2 0 2 0 2 0 2 0 2 0 2 0 2 0 2 0 2 0 2 0 2 0 2 0 2 0 2 0 2 0
    2 0 2 0 2 0 2 0 3 0 2 0 2 0 2 0 2 0 2 0 2 1 2 0 2 0 2 0 2 0 2 0 2 0 2 0 2 0 2 0 2 0 2 0 2 0 2 0
    2 0 2 0 2 0 2 0 2 0 2 0 2 0 2 0 2 0 2 0 2 0 2 0 2 0 2 0 2 0 2 0 2 0 2 0 2 0 2 0 2 0 2 0 2 0 2 0
    2 0 2 0 2 0 2 0 2 0 2 0 2 0 2 0 2 0 2 0 2 0 2a 0 7 26 2 0 9 2c 2 0 2 1 2 1 2 0 9 1a 5 3 1e a 6
    1f 2 1e f 6 5 5a 2 7 3 9 2 5 b 5 11 3a 3 64 f 35 8 0 3 2d 13 1b 5 a 6 17 2 6 8 4a 2 74 9 3 3 9 2
    12 2 7 3 1 3 15 2 6 2 0 4 3 3 8 3 1 3 3 9 0 9 3 3 b b 0 2 0 3 2 2 5 5 1 3 15 2 6 2 0 3 0 3 1 3 0
    2 4 5 1 3 2 4 0 b 0 a f c 2 2 8 2 2 2 15 2 6 2 1 2 4 3 9 2 2 2 2 3 0 10 3 3 9 a 6 2 2 2 7 3 1 3
    15 2 6 2 1 2 4 3 8 3 1 3 2 8 2 8 4 3 9 2 0 11 1 2 5 4 2 2 3 4 1 2 0 2 1 4 1 4 2 4 b 5 4 4 2 2 3
    3 0 7 0 f 9 11 c 2 2 2 16 2 f 3 8 2 2 2 3 8 1 2 2 2 1 3 3 3 9 11 3 2 7 2 2 2 16 2 9 2 4 3 8 2 2
    2 3 8 1 6 2 2 3 3 9 2 2 d c 2 2 2 32 2 2 2 4 6 3 8 4 3 9 b 5 2 2 2 11 4 17 2 8 2 0 3 6 4 0 5 5 2
    0 2 7 7 9 3 1 e 31 2 6 6 e 2 9 28 1 2 0 2 4 2 17 2 0 2 b 2 9 3 4 2 0 2 6 2 9 5 1 21 0 b 0 d 1 7
    9 c 0 2 0 2 0 5 4 2 3 2 3 2 3 2 3 2 3 2 b 2 2 5 1 2 0 6 6 2 2 2 c 2 3 2 3 2 3 2 3 2 3 2 b 2 2 a
    0 3a 49 7 4d 33 2a 3 2 101 48 2 3 3 6 2 0 2 3 3 28 2 3 3 20 2 3 3 6 2 0 2 3 3 e 2 38 2 3 3 42 3
    2 21 f 11 55 c 26b 3 10 2 19 6 4a 7 7 8 15 a 15 c 13 d c 2 2 2 1 d 33 3 1d 4 0 5 1 3 9 27 9 7 58
    8 2a 6 45 b 1e 2 b 5 b b 27 3 4 c 2b 5 19 7 9 27 1b 5 3e 2 1c 3 a 7 9 e 0 9 d 2 1e 3 b 15 4c 4 9
    12 8 d 73 d 37 9 9 4 30 d 0 46 2 2 26 6 2b 4 0 c 0 13 0 1d c 2 21 26 3f 2 0 2 0 2 0 2 0 2 0 2 0
    2 0 2 0 2 0 2 0 2 0 2 0 2 0 2 0 2 0 2 0 2 0 2 0 2 0 2 0 2 0 2 0 2 0 2 0 2 0 2 0 2 0 2 0 2 0 2 0
    2 0 2 0 2 0 2 0 2 0 2 0 2 0 2 0 2 0 2 0 2 0 2 0 2 0 2 0 2 0 2 0 2 0 2 0 2 0 2 0 2 0 2 0 2 0 2 0
    2 0 2 0 2 0 2 0 2 0 2 0 2 0 2 0 2 0 2 0 2 0 2 0 2 0 2 0 2 0 2 0 2 0 2 0 2 0 2 0 2 4 3 1 2 0 2 0
    2 0 2 0 2 0 2 0 2 0 2 0 2 0 2 0 2 0 2 0 2 0 2 0 2 0 2 0 2 0 2 0 2 0 2 0 2 0 2 0 2 0 2 0 2 0 2 0
    2 0 2 0 2 0 2 0 2 0 2 0 2 0 2 0 2 0 2 0 2 0 2 0 2 0 2 0 2 0 2 0 2 0 2 0 2 0 2 0 2 0 2 0 2 8 9 5
    b 7 9 7 9 5 b 7 9 7 9 0 2 0 2 0 2 0 2 0 2 0 2 0 34 1 5 0 10 0 a 2 4 1 9 2 2 3 f 0 158 0 36 0 aac
    2f 2 0 4 1 2 0 2 0 2 0 5 0 2 1 2 5 6 0 2 0 2 0 2 0 2 0 2 0 2 0 2 0 2 0 2 0 2 0 2 0 2 0 2 0 2 0 2
    0 2 0 2 0 2 0 2 0 2 0 2 0 2 0 2 0 2 0 2 0 2 0 2 0 2 0 2 0 2 0 2 0 2 0 2 0 2 0 2 0 2 0 2 0 2 0 2
    0 2 0 2 0 2 0 2 0 2 0 2 0 2 0 2 0 2 0 2 1 8 0 2 3 2 0 d 25 2 0 6 0 3 37 18 17 a 6 2 6 2 6 2 6 2
    6 2 6 2 6 2 6 2 1f 30 0 1d6 2 23 3 f 0 5 55 3 1 3 1 3 59 2 2 7 2a 71 1f 31 f 201 19bf 41 568c 44
    2d 3 10c 4 1b 16 0 2 0 2 0 2 0 2 0 2 0 2 0 2 0 2 0 2 0 2 0 2 0 2 0 2 0 2 0 2 0 2 0 2 0 2 0 2 0 2
    0 2 0 2 2 5 9 2 0 2 0 2 0 2 0 2 0 2 0 2 0 2 0 2 0 2 0 2 0 2 0 2 0 2 0 2 0 3 47 b 1 26 8 4 0 2 0
    2 0 2 0 2 0 2 0 2 2 2 0 2 0 2 0 2 0 2 0 2 0 2 0 2 0 2 0 2 0 2 0 2 0 2 0 2 0 2 0 2 0 2 0 2 0 2 0
    2 0 2 0 2 0 2 0 2 0 2 0 2 0 2 0 2 0 2 0 2 0 2 0 2 7 2 0 2 0 3 0 2 0 2 0 2 0 2 1 4 0 2 1 2 0 2 2
    2 0 2 0 2 0 2 0 2 0 2 0 2 0 2 0 2 0 2 0 6 0 6 0 2 0 2 0 2 0 2 0 2 0 2 0 2 0 5 0 2 0 3 0 2 0 2 0
    2 0 2 0 2 0 2 0 2 0 1b 1 3 2d 5 0 14 33 d 45 b 9 7 17 4 0 2 30 3 23 2d 40 f a 7 1e 2 36 a d 3 9
    7 16 4 48 19 2 3 f 3 4 b 5 3 5 3 5 a 6 2 6 2 2a 6 8 58 2a 2 1 3 9 7 2ba3 226b 1 2 0 2 1 b 0 2 0
    2 1 3 2 f5 0 302 f 44 0 18d b 2 19 2 12 2 1 2 e 3 d 23 7a 103 0 83 1c 4 30 10 0 20 1f e 13 2 7 7
    2a 6 1d 3 23 5 7 59 75 3 9 2f 23 5 27 9 33 34 a 2 e 2 6 2 1 4 33 d 136 a 15 b 7 19 0 80 5 3 0 2
    2b 2 1 4 0 3 16 b 16 a 1e 42 12 2 1 b 15 b 19 7 19 27 37 7 1 41 3 2 1 6 7 2 2 2 1c 3 2 5 0 21 1c
    4 1c 24 7 2 1d 1a 35 b 15 b 12 e 11 6f 48 78 32 e 27 9 9 7 f 1a 4 2 16 fb 29 2 1 4 1 11 5 33 22
    b 0 9 20 20 15 2b 14 1c 16 a 46 20 f a 3b 8 0 e 18 8 9 7 34 2 9 5 3 9 23 3 0 a 44 5 3 2 c 2 0 24
    11 2 24 7 3 3f 6 2 0 2 3 2 e 2 9 8 3a 6 9 7 3 2 7 3 1 3 15 2 6 2 1 2 4 2 9 3 1 3 2 3 0 7 0 6 6 3
    6 4 4 c 9 2 0 3 0 2 25 2 9 2 0 3 0 2 3 2 7 e 1 1e 4a 6 9 5 3 1f 45 2 0 9 9 a7 35 3 8 18 5 23 40
    4 0 c 9 27 38 8 9 7 13 1d 1a 3 e 5 9 7 6 ba 3a 86 29 16 7 3 0 3 7 2 1 2 1d 2 1 3 8 d 9 47 7 3 2d
    3 7 2 1 1c 3e 9 0 9 49 4 0 13 48 68 7 59 20 10 9 7 8 2 2c 2 8 10 9 19 1d 3 15 2 d 4a 6 2 1 2 2b
    4 0 2 1 2 8 9 9 7 5 2 1 2 24 2 1 2 5 8 9 7 2b 5 9 f7 16 a 10 2 28 4 4 e a 56 0 50 399 e7 c3 a4d
    60 10 42f 11 15 b f9a 6 246 1aba 39 6c7 238 8 1e 2 9 7 4e 2 9 7 1d 3 4 c 36 a 3 d 9 a 14 6 12
    1b1 2c 4 9 e7 1f 3c 18 2d 4a 5 38 8 10 41 1 2 1 c 3 d 1cd5 2a 1f 62 72 21fe 3 2 6 2 1 2 122 10 0
    1e 2 3 0 f 3 9 18b 905 6a 6 c 4 8 8 9 4 1 1262 2d 3 16 aba 36 5 31 9 0 f 0 17 4 2 e 451 1e 7 5
    d6 6 2 10 3 6 2 1 2 4 65 0 71 2c 4 d 3 9 5 0 142 1e 12 39 1d7 29 d7 2a c6 1e 2 15 9 1 e1 6 2 3 2
    1 2 e 2 c4 c 6 4c 29 5 9 16a7 a6df 21 111d 3 168d 3 1d30 10 26d 11a3 134a 6 2129"

def greekRanges : Ranges := .ofText
    "370 3 2 2 3 3 2 0 5 0 2 0 2 2 2 0 2 13 2 3e f f 1927 4 33 4 5 4 55 0 141 15 3 5 3 25 3 5 3 7 2 0
    2 0 2 0 2 1e 3 34 2 e 2 d 3 5 2 12 3 2 2 8 128 0 8a3f 0 55db 4e 12 0 d060 45"

def hebrewRanges : Ranges := .ofText
    "591 36 9 1a 5 5 f529 19 2 4 2 0 2 1 2 1 2 9"

def japaneseRanges : Ranges := .ofText
    "2e80 19 2 58 d d5 30 0 2 0 1a 8 f 3 6 55 7 2 2 59 3 2 f1 f d1 2e 2 57 a9 19bf 41 51ff 5901 16d 3
    69 48d 9 2 2c 7045 1 d 6 3ffa 3 2 6 2 1 2 122 10 0 1e 2 3 0 f 3 4099 0 e00 a6df 21 111d 3 168d 3
    1d30 10 26d 9a3 21d 5e3 134a 6 2129"

def joinsNextRanges : Ranges := .ofText
    "620 0 6 0 2 0 2 4 5 c 2 6 2 1 24 1 9 f 13 25 2 1 a 0 2 0 2 1 29 2 3 0 13 2 6 3 2 8 2 0 2 0 2 1
    20 a 4 e 3 3 2 0 3 2 3 5 4b 20 57 4 3 0 2 9 2 0 b 0 2 3 3 0 1e 0 3 4 2 0 11 9 6 1 3 5 2 e f3f 0
    19 58 f 21 2 0 8f96 32 624e 4 9 0 6 9 2 2 b 3 92 0 2 0 4 2 2 1 2 0 3 0 1d 1 152 21 2 0 1a0 1 2 1
    69 2 2 10 d 2 1d 3 3 b 2f 0 2 1 5 0 3 1 2 1 2 0 3 0 6 1 d935 43"

def joinsBeforeRanges : Ranges := .ofText
    "620 0 2 1d 2 9 24 1 2 2 2 5e 2 0 19 1 b 2 3 0 11 0 2 1d 1e 32 4b 20 56 18 8 0 2 3 2 3 6 12 4 0 3
    6 11 c 2 1a f3f 0 19 58 f 21 2 0 8f96 31 624f 5 2 0 2 1 4 8 2 9 3 0 7 4 91 11 18 5 153 22 19f 2
    2 1 69 14 d 3 1c 11 2f 0 2 4 2 7 2 3 5 1 d936 43"

def transparentRanges : Ranges := .ofText
    "ad 0 253 6f 114 6 108 2c 2 0 2 1 2 1 2 0 49 a 2 0 2f 14 11 0 66 6 3 5 3 1 2 3 22 0 2 0 1f 1a 5c
    a 3b 8 a 0 19 3 2 8 2 2 2 4 2c 2 3c 8 2b 17 2 1f 38 0 2 0 5 7 5 0 4 6 b 1 1e 0 3b 0 5 3 9 0 15 1
    1b 0 3 1 3a 0 5 1 5 1 3 2 4 0 1f 1 4 0 c 1 3a 0 5 4 2 1 5 0 15 1 17 5 2 0 3b 0 3 0 2 3 9 0 8 1 c
    1 1f 0 3e 0 d 0 33 0 4 0 38 0 2 2 6 2 2 3 8 1 c 1 1e 0 3b 0 3 0 7 0 6 1 15 1 1d 1 3a 1 5 3 9 0
    15 1 1e 0 49 0 8 2 2 0 5b 0 3 6 d 7 63 0 3 8 c 6 4a 1 1c 0 2 0 2 0 38 d 2 4 2 1 6 a 2 23 a 0 67
    3 2 5 2 1 3 1 1a 1 5 2 11 3 e 0 3 1 7 0 10 0 2c0 2 3b3 2 1e 1 1f 1 1f 1 41 1 2 6 9 0 3 a a 0 2e
    2 2 0 76 1 23 0 77 2 5 1 a 0 7 2 dc 1 3 0 3b 0 2 6 2 0 2 0 3 7 7 9 3 0 31 2d 3 b 15 3 31 0 2 4 2
    0 6 0 29 8 d 1 21 3 3 1 2 2 39 0 2 1 4 0 2 2 3b 7 3 1 99 2 2 c 2 6 5 0 7 0 4 1 c7 3f 20c 0 3 1
    1b 4 32 4 6 5 61 20 bff 2 8e 0 61 1f 22b 3 6c 1 75d5 3 2 9 21 1 51 1 111 0 4 0 5 0 1a 1 6 0 98 1
    1b 11 e 0 27 7 1a a 2f 2 31 0 3 3 3 1 28 0 44 5 3 1 3 1 d 0 9 0 30 0 34 0 2 2 3 1 6 1 2 0 2b 1 9
    0 ef 0 3 0 5 0 4f31 0 2e2 f 11 f d0 0 fa 2 202 0 e3 0 96 4 687 2 2 1 6 3 29 2 5 0 a6 1 23e 3 42
    4 13e 1 4e 5 47 a 32 3 7c 0 37 e 2a 0 3 1 b 2 32 3 3 1 8 0 3e 2 25 4 2 7 3f 0 d 1 35 8 b 3 3 0
    60 2 3 0 2 1 7 0 3 0 9e 0 4 7 16 1 3a 1 4 0 26 6 4 4 47 5 e 0 2 0 2 0 f 1 56 7 3 2 2 0 18 0 55 5
    2 0 5 1 2 1 ef 3 7 1 2 1 1c 1 56 7 3 0 2 1 6b 0 2 0 3 5 2 0 66 0 2 0 3 3 2 4 104 8 2 1 101 1 2 0
    5 0 91 3 3 1 5 0 21 9 29 5 3 3 9 0 a 5 3 2 2f c 2 1 c7 0 2 2 2 0 ca 6 2 5 2 0 53 15 3 6 2 1 2 1
    7b 5 4 0 2 1 2 6 2 0 49 1 4 0 2 0 15c 1 c 1 35 4 6 0 2 0 18 0 14d6 10 7 e 2cc9 b 4 2 9c1 4 3c 6
    419 0 40 3 52 0 4cb9 1 2 3 125d 2d 3 16 221 2 a f 3 6 1f 3 95 2 7bc 36 5 31 9 0 f 0 17 4 2 e 551
    6 2 10 3 6 2 1 2 4 65 0 a1 6 178 0 3e 3 1fd 3 ff 1 f4 0 3 0 8 1 6 0 1db 6 6e 7 c16b6 0 1f 5f 81
    ef"

end FormBuilder.Address
