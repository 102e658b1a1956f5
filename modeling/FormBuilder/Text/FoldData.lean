import FormBuilder.Text.Ranges
/-! The ASCII characters in the compatibility decomposition of every other character. -/
namespace FormBuilder.Text

/-- Pairs of a distance to the character before and its ASCII letters, two hex digits each. -/
def asciiPieces : Pieces := .ofText
    "a0 20 8 20 2 61 5 20 3 32 1 33 1 20 4 20 1 31 1 6f 2 3134 1 3132 1 3334 2 41 1 41 1 41 1 41 1 41
    1 41 2 43 1 45 1 45 1 45 1 45 1 49 1 49 1 49 1 49 2 4e 1 4f 1 4f 1 4f 1 4f 1 4f 3 55 1 55 1 55 1
    55 1 59 3 61 1 61 1 61 1 61 1 61 1 61 2 63 1 65 1 65 1 65 1 65 1 69 1 69 1 69 1 69 2 6e 1 6f 1
    6f 1 6f 1 6f 1 6f 3 75 1 75 1 75 1 75 1 79 2 79 1 41 1 61 1 41 1 61 1 41 1 61 1 43 1 63 1 43 1
    63 1 43 1 63 1 43 1 63 1 44 1 64 3 45 1 65 1 45 1 65 1 45 1 65 1 45 1 65 1 45 1 65 1 47 1 67 1
    47 1 67 1 47 1 67 1 47 1 67 1 48 1 68 3 49 1 69 1 49 1 69 1 49 1 69 1 49 1 69 1 49 2 494a 1 696a
    1 4a 1 6a 1 4b 1 6b 2 4c 1 6c 1 4c 1 6c 1 4c 1 6c 1 4c 1 6c 3 4e 1 6e 1 4e 1 6e 1 4e 1 6e 1 6e 3
    4f 1 6f 1 4f 1 6f 1 4f 1 6f 3 52 1 72 1 52 1 72 1 52 1 72 1 53 1 73 1 53 1 73 1 53 1 73 1 53 1
    73 1 54 1 74 1 54 1 74 3 55 1 75 1 55 1 75 1 55 1 75 1 55 1 75 1 55 1 75 1 55 1 75 1 57 1 77 1
    59 1 79 1 59 1 5a 1 7a 1 5a 1 7a 1 5a 1 7a 1 73 21 4f 1 6f e 55 1 75 14 445a 1 447a 1 647a 1
    4c4a 1 4c6a 1 6c6a 1 4e4a 1 4e6a 1 6e6a 1 41 1 61 1 49 1 69 1 4f 1 6f 1 55 1 75 1 55 1 75 1 55 1
    75 1 55 1 75 1 55 1 75 2 41 1 61 1 41 1 61 5 47 1 67 1 4b 1 6b 1 4f 1 6f 1 4f 1 6f 3 6a 1 445a 1
    447a 1 647a 1 47 1 67 3 4e 1 6e 1 41 1 61 5 41 1 61 1 41 1 61 1 45 1 65 1 45 1 65 1 49 1 69 1 49
    1 69 1 4f 1 6f 1 4f 1 6f 1 52 1 72 1 52 1 72 1 55 1 75 1 55 1 75 1 53 1 73 1 54 1 74 3 48 1 68 7
    41 1 61 1 45 1 65 1 4f 1 6f 1 4f 1 6f 1 4f 1 6f 1 4f 1 6f 1 59 1 79 7d 68 2 6a 1 72 4 77 1 79 20
    20 1 20 1 20 1 20 1 20 1 20 4 6c 1 73 1 78 97 20 4 3b 6 20 1 20 19a7 41 2 42 2 44 1 45 2 47 1 48
    1 49 1 4a 1 4b 1 4c 1 4d 1 4e 2 4f 2 50 1 52 1 54 1 55 1 57 1 61 4 62 1 64 1 65 4 67 2 6b 1 6d 2
    6f 4 70 1 74 1 75 3 76 7 69 1 72 1 75 1 76 37 63 4 66 1b 7a 45 41 1 61 1 42 1 62 1 42 1 62 1 42
    1 62 1 43 1 63 1 44 1 64 1 44 1 64 1 44 1 64 1 44 1 64 1 44 1 64 1 45 1 65 1 45 1 65 1 45 1 65 1
    45 1 65 1 45 1 65 1 46 1 66 1 47 1 67 1 48 1 68 1 48 1 68 1 48 1 68 1 48 1 68 1 48 1 68 1 49 1
    69 1 49 1 69 1 4b 1 6b 1 4b 1 6b 1 4b 1 6b 1 4c 1 6c 1 4c 1 6c 1 4c 1 6c 1 4c 1 6c 1 4d 1 6d 1
    4d 1 6d 1 4d 1 6d 1 4e 1 6e 1 4e 1 6e 1 4e 1 6e 1 4e 1 6e 1 4f 1 6f 1 4f 1 6f 1 4f 1 6f 1 4f 1
    6f 1 50 1 70 1 50 1 70 1 52 1 72 1 52 1 72 1 52 1 72 1 52 1 72 1 53 1 73 1 53 1 73 1 53 1 73 1
    53 1 73 1 53 1 73 1 54 1 74 1 54 1 74 1 54 1 74 1 54 1 74 1 55 1 75 1 55 1 75 1 55 1 75 1 55 1
    75 1 55 1 75 1 56 1 76 1 56 1 76 1 57 1 77 1 57 1 77 1 57 1 77 1 57 1 77 1 57 1 77 1 58 1 78 1
    58 1 78 1 59 1 79 1 5a 1 7a 1 5a 1 7a 1 5a 1 7a 1 68 1 74 1 77 1 79 1 61 1 73 5 41 1 61 1 41 1
    61 1 41 1 61 1 41 1 61 1 41 1 61 1 41 1 61 1 41 1 61 1 41 1 61 1 41 1 61 1 41 1 61 1 41 1 61 1
    41 1 61 1 45 1 65 1 45 1 65 1 45 1 65 1 45 1 65 1 45 1 65 1 45 1 65 1 45 1 65 1 45 1 65 1 49 1
    69 1 49 1 69 1 4f 1 6f 1 4f 1 6f 1 4f 1 6f 1 4f 1 6f 1 4f 1 6f 1 4f 1 6f 1 4f 1 6f 1 4f 1 6f 1
    4f 1 6f 1 4f 1 6f 1 4f 1 6f 1 4f 1 6f 1 55 1 75 1 55 1 75 1 55 1 75 1 55 1 75 1 55 1 75 1 55 1
    75 1 55 1 75 1 59 1 79 1 59 1 79 1 59 1 79 1 59 1 79 c4 20 2 20 1 20 1 20 c 20 1 20 1 20 e 20 1
    20 1 20 e 20 1 20 1 60 e 20 1 20 2 20 1 20 1 20 1 20 1 20 1 20 1 20 1 20 1 20 1 20 1 20 d 20 d
    2e 1 2e2e 1 2e2e2e 9 20 d 2121 2 20 9 3f3f 1 3f21 1 213f 16 20 11 30 1 69 3 34 1 35 1 36 1 37 1
    38 1 39 1 2b 2 3d 1 28 1 29 1 6e 1 30 1 31 1 32 1 33 1 34 1 35 1 36 1 37 1 38 1 39 1 2b 2 3d 1
    28 1 29 2 61 1 65 1 6f 1 78 2 68 1 6b 1 6c 1 6d 1 6e 1 70 1 73 1 74 c 5273 58 612f63 1 612f73 1
    43 1 43 2 632f6f 1 632f75 3 46 1 67 1 48 1 48 1 48 1 68 2 49 1 49 1 4c 1 6c 2 4e 1 4e6f 3 50 1
    51 1 52 1 52 1 52 3 534d 1 54454c 1 544d 2 5a 4 5a 2 4b 1 41 1 42 1 43 2 65 1 45 1 46 2 4d 1 6f
    5 69 2 464158 a 44 1 64 1 65 1 69 1 6a 7 3137 1 3139 1 313130 1 3133 1 3233 1 3135 1 3235 1 3335
    1 3435 1 3136 1 3536 1 3138 1 3338 1 3538 1 3738 1 31 1 49 1 4949 1 494949 1 4956 1 56 1 5649 1
    564949 1 56494949 1 4958 1 58 1 5849 1 584949 1 4c 1 43 1 44 1 4d 1 69 1 6969 1 696969 1 6976 1
    76 1 7669 1 766969 1 76696969 1 6978 1 78 1 7869 1 786969 1 6c 1 63 1 64 1 6d a 3033 d7 3d e 3c
    1 3e 1f1 31 1 32 1 33 1 34 1 35 1 36 1 37 1 38 1 39 1 3130 1 3131 1 3132 1 3133 1 3134 1 3135 1
    3136 1 3137 1 3138 1 3139 1 3230 1 283129 1 283229 1 283329 1 283429 1 283529 1 283629 1 283729
    1 283829 1 283929 1 28313029 1 28313129 1 28313229 1 28313329 1 28313429 1 28313529 1 28313629 1
    28313729 1 28313829 1 28313929 1 28323029 1 312e 1 322e 1 332e 1 342e 1 352e 1 362e 1 372e 1
    382e 1 392e 1 31302e 1 31312e 1 31322e 1 31332e 1 31342e 1 31352e 1 31362e 1 31372e 1 31382e 1
    31392e 1 32302e 1 286129 1 286229 1 286329 1 286429 1 286529 1 286629 1 286729 1 286829 1 286929
    1 286a29 1 286b29 1 286c29 1 286d29 1 286e29 1 286f29 1 287029 1 287129 1 287229 1 287329 1
    287429 1 287529 1 287629 1 287729 1 287829 1 287929 1 287a29 1 41 1 42 1 43 1 44 1 45 1 46 1 47
    1 48 1 49 1 4a 1 4b 1 4c 1 4d 1 4e 1 4f 1 50 1 51 1 52 1 53 1 54 1 55 1 56 1 57 1 58 1 59 1 5a 1
    61 1 62 1 63 1 64 1 65 1 66 1 67 1 68 1 69 1 6a 1 6b 1 6c 1 6d 1 6e 1 6f 1 70 1 71 1 72 1 73 1
    74 1 75 1 76 1 77 1 78 1 79 1 7a 1 30 58a 3a3a3d 1 3d3d 1 3d3d3d 206 6a 1 56 383 20 9b 20 1 20
    164 2829 1 2829 1 2829 1 2829 1 2829 1 2829 1 2829 1 2829 1 2829 1 2829 1 2829 1 2829 1 2829 1
    2829 1 2829 1 2829 1 2829 1 2829 1 2829 1 2829 1 2829 1 2829 1 2829 1 2829 1 2829 1 2829 1 2829
    1 2829 1 2829 1 2829 1 2829 2 2829 1 2829 1 2829 1 2829 1 2829 1 2829 1 2829 1 2829 1 2829 1
    2829 1 2829 1 2829 1 2829 1 2829 1 2829 1 2829 1 2829 1 2829 1 2829 1 2829 1 2829 1 2829 1 2829
    1 2829 1 2829 1 2829 1 2829 1 2829 1 2829 1 2829 1 2829 1 2829 1 2829 1 2829 1 2829 1 2829 d
    505445 1 3231 1 3232 1 3233 1 3234 1 3235 1 3236 1 3237 1 3238 1 3239 1 3330 1 3331 1 3332 1
    3333 1 3334 1 3335 52 3336 1 3337 1 3338 1 3339 1 3430 1 3431 1 3432 1 3433 1 3434 1 3435 1 3436
    1 3437 1 3438 1 3439 1 3530 1 31 1 32 1 33 1 34 1 35 1 36 1 37 1 38 1 39 1 3130 1 3131 1 3132 1
    4867 1 657267 1 6556 1 4c5444 89 30 1 31 1 32 1 33 1 34 1 35 1 36 1 37 1 38 1 39 1 3130 1 3131 1
    3132 1 3133 1 3134 1 3135 1 3136 1 3137 1 3138 1 3139 1 3230 1 3231 1 3232 1 3233 1 3234 1
    685061 1 6461 1 4155 1 626172 1 6f56 1 7063 1 646d 1 646d32 1 646d33 1 4955 6 7041 1 6e41 1 41 1
    6d41 1 6b41 1 4b42 1 4d42 1 4742 1 63616c 1 6b63616c 1 7046 1 6e46 1 46 1 67 1 6d67 1 6b67 1
    487a 1 6b487a 1 4d487a 1 47487a 1 54487a 1 6c 1 6d6c 1 646c 1 6b6c 1 666d 1 6e6d 1 6d 1 6d6d 1
    636d 1 6b6d 1 6d6d32 1 636d32 1 6d32 1 6b6d32 1 6d6d33 1 636d33 1 6d33 1 6b6d33 1 6d73 1 6d7332
    1 5061 1 6b5061 1 4d5061 1 475061 1 726164 1 72616473 1 7261647332 1 7073 1 6e73 1 73 1 6d73 1
    7056 1 6e56 1 56 1 6d56 1 6b56 1 4d56 1 7057 1 6e57 1 57 1 6d57 1 6b57 1 4d57 1 6b 1 4d 1
    612e6d2e 1 4271 1 6363 1 6364 1 436b67 1 436f2e 1 6442 1 4779 1 6861 1 4850 1 696e 1 4b4b 1 4b4d
    1 6b74 1 6c6d 1 6c6e 1 6c6f67 1 6c78 1 6d62 1 6d696c 1 6d6f6c 1 5048 1 702e6d2e 1 50504d 1 5052
    1 7372 1 5376 1 5762 1 566d 1 416d 1 31 1 32 1 33 1 34 1 35 1 36 1 37 1 38 1 39 1 3130 1 3131 1
    3132 1 3133 1 3134 1 3135 1 3136 1 3137 1 3138 1 3139 1 3230 1 3231 1 3232 1 3233 1 3234 1 3235
    1 3236 1 3237 1 3238 1 3239 1 3330 1 3331 1 67616c 73f3 43 1 46 1 51 530c 6666 1 6669 1 666c 1
    666669 1 66666c 1 7374 1 7374 23 2b 135 20 1 20 1 20 1 20 1 20 1 20 197 202020 1 20 15 2c 3 3a 1
    3b 1 21 1 3f 3 2e2e2e 17 2e2e 3 5f 1 5f 1 28 1 29 1 7b 1 7d f 5b 1 5d 1 20 1 20 1 20 1 20 1 5f 1
    5f 1 5f 1 2c 2 2e 2 3b 1 3a 1 3f 1 21 2 28 1 29 1 7b 1 7d 3 23 1 26 1 2a 1 2b 1 2d 1 3c 1 3e 1
    3d 2 5c 1 24 1 25 1 40 5 20 2 20 2 20 2 20 2 20 2 20 2 20 2 20 83 21 1 22 1 23 1 24 1 25 1 26 1
    27 1 28 1 29 1 2a 1 2b 1 2c 1 2d 1 2e 1 2f 1 30 1 31 1 32 1 33 1 34 1 35 1 36 1 37 1 38 1 39 1
    3a 1 3b 1 3c 1 3d 1 3e 1 3f 1 40 1 41 1 42 1 43 1 44 1 45 1 46 1 47 1 48 1 49 1 4a 1 4b 1 4c 1
    4d 1 4e 1 4f 1 50 1 51 1 52 1 53 1 54 1 55 1 56 1 57 1 58 1 59 1 5a 1 5b 1 5c 1 5d 1 5e 1 5f 1
    60 1 61 1 62 1 63 1 64 1 65 1 66 1 67 1 68 1 69 1 6a 1 6b 1 6c 1 6d 1 6e 1 6f 1 70 1 71 1 72 1
    73 1 74 1 75 1 76 1 77 1 78 1 79 1 7a 1 7b 1 7c 1 7d 1 7e 85 20 7c2 71 cc5b 41 1 42 1 43 1 44 1
    45 1 46 1 47 1 48 1 49 1 4a 1 4b 1 4c 1 4d 1 4e 1 4f 1 50 1 51 1 52 1 53 1 54 1 55 1 56 1 57 1
    58 1 59 1 5a 1 61 1 62 1 63 1 64 1 65 1 66 1 67 1 68 1 69 1 6a 1 6b 1 6c 1 6d 1 6e 1 6f 1 70 1
    71 1 72 1 73 1 74 1 75 1 76 1 77 1 78 1 79 1 7a 1 41 1 42 1 43 1 44 1 45 1 46 1 47 1 48 1 49 1
    4a 1 4b 1 4c 1 4d 1 4e 1 4f 1 50 1 51 1 52 1 53 1 54 1 55 1 56 1 57 1 58 1 59 1 5a 1 61 1 62 1
    63 1 64 1 65 1 66 1 67 2 69 1 6a 1 6b 1 6c 1 6d 1 6e 1 6f 1 70 1 71 1 72 1 73 1 74 1 75 1 76 1
    77 1 78 1 79 1 7a 1 41 1 42 1 43 1 44 1 45 1 46 1 47 1 48 1 49 1 4a 1 4b 1 4c 1 4d 1 4e 1 4f 1
    50 1 51 1 52 1 53 1 54 1 55 1 56 1 57 1 58 1 59 1 5a 1 61 1 62 1 63 1 64 1 65 1 66 1 67 1 68 1
    69 1 6a 1 6b 1 6c 1 6d 1 6e 1 6f 1 70 1 71 1 72 1 73 1 74 1 75 1 76 1 77 1 78 1 79 1 7a 1 41 2
    43 1 44 3 47 3 4a 1 4b 3 4e 1 4f 1 50 1 51 2 53 1 54 1 55 1 56 1 57 1 58 1 59 1 5a 1 61 1 62 1
    63 1 64 2 66 2 68 1 69 1 6a 1 6b 1 6c 1 6d 1 6e 2 70 1 71 1 72 1 73 1 74 1 75 1 76 1 77 1 78 1
    79 1 7a 1 41 1 42 1 43 1 44 1 45 1 46 1 47 1 48 1 49 1 4a 1 4b 1 4c 1 4d 1 4e 1 4f 1 50 1 51 1
    52 1 53 1 54 1 55 1 56 1 57 1 58 1 59 1 5a 1 61 1 62 1 63 1 64 1 65 1 66 1 67 1 68 1 69 1 6a 1
    6b 1 6c 1 6d 1 6e 1 6f 1 70 1 71 1 72 1 73 1 74 1 75 1 76 1 77 1 78 1 79 1 7a 1 41 1 42 2 44 1
    45 1 46 1 47 3 4a 1 4b 1 4c 1 4d 1 4e 1 4f 1 50 1 51 2 53 1 54 1 55 1 56 1 57 1 58 1 59 2 61 1
    62 1 63 1 64 1 65 1 66 1 67 1 68 1 69 1 6a 1 6b 1 6c 1 6d 1 6e 1 6f 1 70 1 71 1 72 1 73 1 74 1
    75 1 76 1 77 1 78 1 79 1 7a 1 41 1 42 2 44 1 45 1 46 1 47 2 49 1 4a 1 4b 1 4c 1 4d 2 4f 4 53 1
    54 1 55 1 56 1 57 1 58 1 59 2 61 1 62 1 63 1 64 1 65 1 66 1 67 1 68 1 69 1 6a 1 6b 1 6c 1 6d 1
    6e 1 6f 1 70 1 71 1 72 1 73 1 74 1 75 1 76 1 77 1 78 1 79 1 7a 1 41 1 42 1 43 1 44 1 45 1 46 1
    47 1 48 1 49 1 4a 1 4b 1 4c 1 4d 1 4e 1 4f 1 50 1 51 1 52 1 53 1 54 1 55 1 56 1 57 1 58 1 59 1
    5a 1 61 1 62 1 63 1 64 1 65 1 66 1 67 1 68 1 69 1 6a 1 6b 1 6c 1 6d 1 6e 1 6f 1 70 1 71 1 72 1
    73 1 74 1 75 1 76 1 77 1 78 1 79 1 7a 1 41 1 42 1 43 1 44 1 45 1 46 1 47 1 48 1 49 1 4a 1 4b 1
    4c 1 4d 1 4e 1 4f 1 50 1 51 1 52 1 53 1 54 1 55 1 56 1 57 1 58 1 59 1 5a 1 61 1 62 1 63 1 64 1
    65 1 66 1 67 1 68 1 69 1 6a 1 6b 1 6c 1 6d 1 6e 1 6f 1 70 1 71 1 72 1 73 1 74 1 75 1 76 1 77 1
    78 1 79 1 7a 1 41 1 42 1 43 1 44 1 45 1 46 1 47 1 48 1 49 1 4a 1 4b 1 4c 1 4d 1 4e 1 4f 1 50 1
    51 1 52 1 53 1 54 1 55 1 56 1 57 1 58 1 59 1 5a 1 61 1 62 1 63 1 64 1 65 1 66 1 67 1 68 1 69 1
    6a 1 6b 1 6c 1 6d 1 6e 1 6f 1 70 1 71 1 72 1 73 1 74 1 75 1 76 1 77 1 78 1 79 1 7a 1 41 1 42 1
    43 1 44 1 45 1 46 1 47 1 48 1 49 1 4a 1 4b 1 4c 1 4d 1 4e 1 4f 1 50 1 51 1 52 1 53 1 54 1 55 1
    56 1 57 1 58 1 59 1 5a 1 61 1 62 1 63 1 64 1 65 1 66 1 67 1 68 1 69 1 6a 1 6b 1 6c 1 6d 1 6e 1
    6f 1 70 1 71 1 72 1 73 1 74 1 75 1 76 1 77 1 78 1 79 1 7a 1 41 1 42 1 43 1 44 1 45 1 46 1 47 1
    48 1 49 1 4a 1 4b 1 4c 1 4d 1 4e 1 4f 1 50 1 51 1 52 1 53 1 54 1 55 1 56 1 57 1 58 1 59 1 5a 1
    61 1 62 1 63 1 64 1 65 1 66 1 67 1 68 1 69 1 6a 1 6b 1 6c 1 6d 1 6e 1 6f 1 70 1 71 1 72 1 73 1
    74 1 75 1 76 1 77 1 78 1 79 1 7a 1 41 1 42 1 43 1 44 1 45 1 46 1 47 1 48 1 49 1 4a 1 4b 1 4c 1
    4d 1 4e 1 4f 1 50 1 51 1 52 1 53 1 54 1 55 1 56 1 57 1 58 1 59 1 5a 1 61 1 62 1 63 1 64 1 65 1
    66 1 67 1 68 1 69 1 6a 1 6b 1 6c 1 6d 1 6e 1 6f 1 70 1 71 1 72 1 73 1 74 1 75 1 76 1 77 1 78 1
    79 1 7a 12b 30 1 31 1 32 1 33 1 34 1 35 1 36 1 37 1 38 1 39 1 30 1 31 1 32 1 33 1 34 1 35 1 36 1
    37 1 38 1 39 1 30 1 31 1 32 1 33 1 34 1 35 1 36 1 37 1 38 1 39 1 30 1 31 1 32 1 33 1 34 1 35 1
    36 1 37 1 38 1 39 1 30 1 31 1 32 1 33 1 34 1 35 1 36 1 37 1 38 1 39 1901 302e 1 302c 1 312c 1
    322c 1 332c 1 342c 1 352c 1 362c 1 372c 1 382c 1 392c 6 284129 1 284229 1 284329 1 284429 1
    284529 1 284629 1 284729 1 284829 1 284929 1 284a29 1 284b29 1 284c29 1 284d29 1 284e29 1 284f29
    1 285029 1 285129 1 285229 1 285329 1 285429 1 285529 1 285629 1 285729 1 285829 1 285929 1
    285a29 1 53 1 43 1 52 1 4344 1 575a 2 41 1 42 1 43 1 44 1 45 1 46 1 47 1 48 1 49 1 4a 1 4b 1 4c
    1 4d 1 4e 1 4f 1 50 1 51 1 52 1 53 1 54 1 55 1 56 1 57 1 58 1 59 1 5a 1 4856 1 4d56 1 5344 1
    5353 1 505056 1 5743 1b 4d43 1 4d44 1 4d52 24 444a a60 30 1 31 1 32 1 33 1 34 1 35 1 36 1 37 1
    38 1 39"

end FormBuilder.Text
