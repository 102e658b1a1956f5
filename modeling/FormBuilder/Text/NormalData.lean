import FormBuilder.Text.Ranges
/-! Canonical decompositions, combining classes and marks. -/
namespace FormBuilder.Text

/-- For each character that decomposes: its distance to the one before, the first character of its
decomposition, and twice the second one, plus one when the two compose again. -/
def decompositionWords : Array Nat := hexWords
    "c0 41 601 1 41 603 1 41 605 1 41 607 1 41 611 1 41 615 2 43 64f 1 45 601 1 45 603 1 45 605 1 45
    611 1 49 601 1 49 603 1 49 605 1 49 611 2 4e 607 1 4f 601 1 4f 603 1 4f 605 1 4f 607 1 4f 611 3
    55 601 1 55 603 1 55 605 1 55 611 1 59 603 3 61 601 1 61 603 1 61 605 1 61 607 1 61 611 1 61 615
    2 63 64f 1 65 601 1 65 603 1 65 605 1 65 611 1 69 601 1 69 603 1 69 605 1 69 611 2 6e 607 1 6f
    601 1 6f 603 1 6f 605 1 6f 607 1 6f 611 3 75 601 1 75 603 1 75 605 1 75 611 1 79 603 2 79 611 1
    41 609 1 61 609 1 41 60d 1 61 60d 1 41 651 1 61 651 1 43 603 1 63 603 1 43 605 1 63 605 1 43 60f
    1 63 60f 1 43 619 1 63 619 1 44 619 1 64 619 3 45 609 1 65 609 1 45 60d 1 65 60d 1 45 60f 1 65
    60f 1 45 651 1 65 651 1 45 619 1 65 619 1 47 605 1 67 605 1 47 60d 1 67 60d 1 47 60f 1 67 60f 1
    47 64f 1 67 64f 1 48 605 1 68 605 3 49 607 1 69 607 1 49 609 1 69 609 1 49 60d 1 69 60d 1 49 651
    1 69 651 1 49 60f 4 4a 605 1 6a 605 1 4b 64f 1 6b 64f 2 4c 603 1 6c 603 1 4c 64f 1 6c 64f 1 4c
    619 1 6c 619 5 4e 603 1 6e 603 1 4e 64f 1 6e 64f 1 4e 619 1 6e 619 4 4f 609 1 6f 609 1 4f 60d 1
    6f 60d 1 4f 617 1 6f 617 3 52 603 1 72 603 1 52 64f 1 72 64f 1 52 619 1 72 619 1 53 603 1 73 603
    1 53 605 1 73 605 1 53 64f 1 73 64f 1 53 619 1 73 619 1 54 64f 1 74 64f 1 54 619 1 74 619 3 55
    607 1 75 607 1 55 609 1 75 609 1 55 60d 1 75 60d 1 55 615 1 75 615 1 55 617 1 75 617 1 55 651 1
    75 651 1 57 605 1 77 605 1 59 605 1 79 605 1 59 611 1 5a 603 1 7a 603 1 5a 60f 1 7a 60f 1 5a 619
    1 7a 619 22 4f 637 1 6f 637 e 55 637 1 75 637 1d 41 619 1 61 619 1 49 619 1 69 619 1 4f 619 1 6f
    619 1 55 619 1 75 619 1 dc 609 1 fc 609 1 dc 603 1 fc 603 1 dc 619 1 fc 619 1 dc 601 1 fc 601 2
    c4 609 1 e4 609 1 226 609 1 227 609 1 c6 609 1 e6 609 3 47 619 1 67 619 1 4b 619 1 6b 619 1 4f
    651 1 6f 651 1 1ea 609 1 1eb 609 1 1b7 619 1 292 619 1 6a 619 4 47 603 1 67 603 3 4e 601 1 6e
    601 1 c5 603 1 e5 603 1 c6 603 1 e6 603 1 d8 603 1 f8 603 1 41 61f 1 61 61f 1 41 623 1 61 623 1
    45 61f 1 65 61f 1 45 623 1 65 623 1 49 61f 1 69 61f 1 49 623 1 69 623 1 4f 61f 1 6f 61f 1 4f 623
    1 6f 623 1 52 61f 1 72 61f 1 52 623 1 72 623 1 55 61f 1 75 61f 1 55 623 1 75 623 1 53 64d 1 73
    64d 1 54 64d 1 74 64d 3 48 619 1 68 619 7 41 60f 1 61 60f 1 45 64f 1 65 64f 1 d6 609 1 f6 609 1
    d5 609 1 f5 609 1 4f 60f 1 6f 60f 1 22e 609 1 22f 609 1 59 609 1 79 609 10d 300 0 1 301 0 2 313
    0 1 308 602 30 2b9 0 a 3b 0 7 a8 603 1 391 603 1 b7 0 1 395 603 1 397 603 1 399 603 2 39f 603 2
    3a5 603 1 3a9 603 1 3ca 603 1a 399 611 1 3a5 611 1 3b1 603 1 3b5 603 1 3b7 603 1 3b9 603 1 3cb
    603 1a 3b9 611 1 3c5 611 1 3bf 603 1 3c5 603 1 3c9 603 5 3d2 603 1 3d2 611 2c 415 601 1 415 611
    2 413 603 4 406 611 5 41a 603 1 418 601 1 423 60d b 418 60d 20 438 60d 17 435 601 1 435 611 2
    433 603 4 456 611 5 43a 603 1 438 601 1 443 60d 18 474 61f 1 475 61f 4a 416 60d 1 436 60d e 410
    60d 1 430 60d 1 410 611 1 430 611 3 415 60d 1 435 60d 3 4d8 611 1 4d9 611 1 416 611 1 436 611 1
    417 611 1 437 611 3 418 609 1 438 609 1 418 611 1 438 611 1 41e 611 1 43e 611 3 4e8 611 1 4e9
    611 1 42d 611 1 44d 611 1 423 609 1 443 609 1 423 611 1 443 611 1 423 617 1 443 617 1 427 611 1
    447 611 3 42b 611 1 44b 611 129 627 ca7 1 627 ca9 1 648 ca9 1 627 cab 1 64a ca9 9a 6d5 ca9 2 6c1
    ca9 11 6d2 ca9 256 928 1279 8 930 1279 3 933 1279 24 915 1278 1 916 1278 1 917 1278 1 91c 1278 1
    921 1278 1 922 1278 1 92b 1278 1 92f 1278 6c 9c7 137d 1 9c7 13af 10 9a1 1378 1 9a2 1378 2 9af
    1378 54 a32 1478 3 a38 1478 23 a16 1478 1 a17 1478 1 a1c 1478 3 a2b 1478 ea b47 16ad 3 b47 167d
    1 b47 16af 10 b21 1678 1 b22 1678 37 b92 17af 36 bc6 177d 1 bc7 177d 1 bc6 17af 7c c46 18ad 78
    cbf 19ab 7 cc6 19ab 1 cc6 19ad 2 cc6 1985 1 cca 19ab 7f d46 1a7d 1 d47 1a7d 1 d46 1aaf 8e dd9
    1b95 2 dd9 1b9f 1 ddc 1b95 1 dd9 1bbf 165 f42 1f6e a f4c 1f6e 5 f51 1f6e 5 f56 1f6e 5 f5b 1f6e d
    f40 1f6a a f71 1ee4 2 f71 1ee8 1 fb2 1f00 2 fb3 1f00 9 f71 1f00 12 f92 1f6e a f9c 1f6e 5 fa1
    1f6e 5 fa6 1f6e 5 fab 1f6e d f90 1f6a 6d 1025 205d ae0 1b05 366b 2 1b07 366b 2 1b09 366b 2 1b0b
    366b 2 1b0d 366b 4 1b11 366b 29 1b3a 366b 2 1b3c 366b 3 1b3e 366b 1 1b3f 366b 2 1b42 366b 2bd 41
    64b 1 61 64b 1 42 60f 1 62 60f 1 42 647 1 62 647 1 42 663 1 62 663 1 c7 603 1 e7 603 1 44 60f 1
    64 60f 1 44 647 1 64 647 1 44 663 1 64 663 1 44 64f 1 64 64f 1 44 65b 1 64 65b 1 112 601 1 113
    601 1 112 603 1 113 603 1 45 65b 1 65 65b 1 45 661 1 65 661 1 228 60d 1 229 60d 1 46 60f 1 66
    60f 1 47 609 1 67 609 1 48 60f 1 68 60f 1 48 647 1 68 647 1 48 611 1 68 611 1 48 64f 1 68 64f 1
    48 65d 1 68 65d 1 49 661 1 69 661 1 cf 603 1 ef 603 1 4b 603 1 6b 603 1 4b 647 1 6b 647 1 4b 663
    1 6b 663 1 4c 647 1 6c 647 1 1e36 609 1 1e37 609 1 4c 663 1 6c 663 1 4c 65b 1 6c 65b 1 4d 603 1
    6d 603 1 4d 60f 1 6d 60f 1 4d 647 1 6d 647 1 4e 60f 1 6e 60f 1 4e 647 1 6e 647 1 4e 663 1 6e 663
    1 4e 65b 1 6e 65b 1 d5 603 1 f5 603 1 d5 611 1 f5 611 1 14c 601 1 14d 601 1 14c 603 1 14d 603 1
    50 603 1 70 603 1 50 60f 1 70 60f 1 52 60f 1 72 60f 1 52 647 1 72 647 1 1e5a 609 1 1e5b 609 1 52
    663 1 72 663 1 53 60f 1 73 60f 1 53 647 1 73 647 1 15a 60f 1 15b 60f 1 160 60f 1 161 60f 1 1e62
    60f 1 1e63 60f 1 54 60f 1 74 60f 1 54 647 1 74 647 1 54 663 1 74 663 1 54 65b 1 74 65b 1 55 649
    1 75 649 1 55 661 1 75 661 1 55 65b 1 75 65b 1 168 603 1 169 603 1 16a 611 1 16b 611 1 56 607 1
    76 607 1 56 647 1 76 647 1 57 601 1 77 601 1 57 603 1 77 603 1 57 611 1 77 611 1 57 60f 1 77 60f
    1 57 647 1 77 647 1 58 60f 1 78 60f 1 58 611 1 78 611 1 59 60f 1 79 60f 1 5a 605 1 7a 605 1 5a
    647 1 7a 647 1 5a 663 1 7a 663 1 68 663 1 74 611 1 77 615 1 79 615 2 17f 60f 5 41 647 1 61 647 1
    41 613 1 61 613 1 c2 603 1 e2 603 1 c2 601 1 e2 601 1 c2 613 1 e2 613 1 c2 607 1 e2 607 1 1ea0
    605 1 1ea1 605 1 102 603 1 103 603 1 102 601 1 103 601 1 102 613 1 103 613 1 102 607 1 103 607 1
    1ea0 60d 1 1ea1 60d 1 45 647 1 65 647 1 45 613 1 65 613 1 45 607 1 65 607 1 ca 603 1 ea 603 1 ca
    601 1 ea 601 1 ca 613 1 ea 613 1 ca 607 1 ea 607 1 1eb8 605 1 1eb9 605 1 49 613 1 69 613 1 49
    647 1 69 647 1 4f 647 1 6f 647 1 4f 613 1 6f 613 1 d4 603 1 f4 603 1 d4 601 1 f4 601 1 d4 613 1
    f4 613 1 d4 607 1 f4 607 1 1ecc 605 1 1ecd 605 1 1a0 603 1 1a1 603 1 1a0 601 1 1a1 601 1 1a0 613
    1 1a1 613 1 1a0 607 1 1a1 607 1 1a0 647 1 1a1 647 1 55 647 1 75 647 1 55 613 1 75 613 1 1af 603
    1 1b0 603 1 1af 601 1 1b0 601 1 1af 613 1 1b0 613 1 1af 607 1 1b0 607 1 1af 647 1 1b0 647 1 59
    601 1 79 601 1 59 647 1 79 647 1 59 613 1 79 613 1 59 607 1 79 607 7 3b1 627 1 3b1 629 1 1f00
    601 1 1f01 601 1 1f00 603 1 1f01 603 1 1f00 685 1 1f01 685 1 391 627 1 391 629 1 1f08 601 1 1f09
    601 1 1f08 603 1 1f09 603 1 1f08 685 1 1f09 685 1 3b5 627 1 3b5 629 1 1f10 601 1 1f11 601 1 1f10
    603 1 1f11 603 3 395 627 1 395 629 1 1f18 601 1 1f19 601 1 1f18 603 1 1f19 603 3 3b7 627 1 3b7
    629 1 1f20 601 1 1f21 601 1 1f20 603 1 1f21 603 1 1f20 685 1 1f21 685 1 397 627 1 397 629 1 1f28
    601 1 1f29 601 1 1f28 603 1 1f29 603 1 1f28 685 1 1f29 685 1 3b9 627 1 3b9 629 1 1f30 601 1 1f31
    601 1 1f30 603 1 1f31 603 1 1f30 685 1 1f31 685 1 399 627 1 399 629 1 1f38 601 1 1f39 601 1 1f38
    603 1 1f39 603 1 1f38 685 1 1f39 685 1 3bf 627 1 3bf 629 1 1f40 601 1 1f41 601 1 1f40 603 1 1f41
    603 3 39f 627 1 39f 629 1 1f48 601 1 1f49 601 1 1f48 603 1 1f49 603 3 3c5 627 1 3c5 629 1 1f50
    601 1 1f51 601 1 1f50 603 1 1f51 603 1 1f50 685 1 1f51 685 2 3a5 629 2 1f59 601 2 1f59 603 2
    1f59 685 1 3c9 627 1 3c9 629 1 1f60 601 1 1f61 601 1 1f60 603 1 1f61 603 1 1f60 685 1 1f61 685 1
    3a9 627 1 3a9 629 1 1f68 601 1 1f69 601 1 1f68 603 1 1f69 603 1 1f68 685 1 1f69 685 1 3b1 601 1
    3ac 0 1 3b5 601 1 3ad 0 1 3b7 601 1 3ae 0 1 3b9 601 1 3af 0 1 3bf 601 1 3cc 0 1 3c5 601 1 3cd 0
    1 3c9 601 1 3ce 0 3 1f00 68b 1 1f01 68b 1 1f02 68b 1 1f03 68b 1 1f04 68b 1 1f05 68b 1 1f06 68b 1
    1f07 68b 1 1f08 68b 1 1f09 68b 1 1f0a 68b 1 1f0b 68b 1 1f0c 68b 1 1f0d 68b 1 1f0e 68b 1 1f0f 68b
    1 1f20 68b 1 1f21 68b 1 1f22 68b 1 1f23 68b 1 1f24 68b 1 1f25 68b 1 1f26 68b 1 1f27 68b 1 1f28
    68b 1 1f29 68b 1 1f2a 68b 1 1f2b 68b 1 1f2c 68b 1 1f2d 68b 1 1f2e 68b 1 1f2f 68b 1 1f60 68b 1
    1f61 68b 1 1f62 68b 1 1f63 68b 1 1f64 68b 1 1f65 68b 1 1f66 68b 1 1f67 68b 1 1f68 68b 1 1f69 68b
    1 1f6a 68b 1 1f6b 68b 1 1f6c 68b 1 1f6d 68b 1 1f6e 68b 1 1f6f 68b 1 3b1 60d 1 3b1 609 1 1f70 68b
    1 3b1 68b 1 3ac 68b 2 3b1 685 1 1fb6 68b 1 391 60d 1 391 609 1 391 601 1 386 0 1 391 68b 2 3b9 0
    3 a8 685 1 1f74 68b 1 3b7 68b 1 3ae 68b 2 3b7 685 1 1fc6 68b 1 395 601 1 388 0 1 397 601 1 389 0
    1 397 68b 1 1fbf 601 1 1fbf 603 1 1fbf 685 1 3b9 60d 1 3b9 609 1 3ca 601 1 390 0 3 3b9 685 1 3ca
    685 1 399 60d 1 399 609 1 399 601 1 38a 0 2 1ffe 601 1 1ffe 603 1 1ffe 685 1 3c5 60d 1 3c5 609 1
    3cb 601 1 3b0 0 1 3c1 627 1 3c1 629 1 3c5 685 1 3cb 685 1 3a5 60d 1 3a5 609 1 3a5 601 1 38e 0 1
    3a1 629 1 a8 601 1 385 0 1 60 0 3 1f7c 68b 1 3c9 68b 1 3ce 68b 2 3c9 685 1 1ff6 68b 1 39f 601 1
    38c 0 1 3a9 601 1 38f 0 1 3a9 68b 1 b4 0 3 2002 0 1 2003 0 125 3a9 0 4 4b 0 1 c5 0 6f 2190 671 1
    2192 671 13 2194 671 1f 21d0 671 1 21d4 671 1 21d2 671 35 2203 671 5 2208 671 3 220b 671 18 2223
    671 2 2225 671 1b 223c 671 3 2243 671 3 2245 671 2 2248 671 17 3d 671 2 2261 671 b 224d 671 1 3c
    671 1 3e 671 1 2264 671 1 2265 671 3 2272 671 1 2273 671 3 2276 671 1 2277 671 7 227a 671 1 227b
    671 3 2282 671 1 2283 671 3 2286 671 1 2287 671 23 22a2 671 1 22a8 671 1 22a9 671 1 22ab 671 31
    227c 671 1 227d 671 1 2291 671 1 2292 671 7 22b2 671 1 22b3 671 1 22b4 671 1 22b5 671 3c 3008 0
    1 3009 0 7b2 2add 670 570 304b 6133 2 304d 6133 2 304f 6133 2 3051 6133 2 3053 6133 2 3055 6133
    2 3057 6133 2 3059 6133 2 305b 6133 2 305d 6133 2 305f 6133 2 3061 6133 3 3064 6133 2 3066 6133
    2 3068 6133 7 306f 6133 1 306f 6135 2 3072 6133 1 3072 6135 2 3075 6133 1 3075 6135 2 3078 6133
    1 3078 6135 2 307b 6133 1 307b 6135 17 3046 6133 a 309d 6133 e 30ab 6133 2 30ad 6133 2 30af 6133
    2 30b1 6133 2 30b3 6133 2 30b5 6133 2 30b7 6133 2 30b9 6133 2 30bb 6133 2 30bd 6133 2 30bf 6133
    2 30c1 6133 3 30c4 6133 2 30c6 6133 2 30c8 6133 7 30cf 6133 1 30cf 6135 2 30d2 6133 1 30d2 6135
    2 30d5 6133 1 30d5 6135 2 30d8 6133 1 30d8 6135 2 30db 6133 1 30db 6135 17 30a6 6133 3 30ef 6133
    1 30f0 6133 1 30f1 6133 1 30f2 6133 4 30fd 6133 c802 8c48 0 1 66f4 0 1 8eca 0 1 8cc8 0 1 6ed1 0
    1 4e32 0 1 53e5 0 1 9f9c 0 1 9f9c 0 1 5951 0 1 91d1 0 1 5587 0 1 5948 0 1 61f6 0 1 7669 0 1 7f85
    0 1 863f 0 1 87ba 0 1 88f8 0 1 908f 0 1 6a02 0 1 6d1b 0 1 70d9 0 1 73de 0 1 843d 0 1 916a 0 1
    99f1 0 1 4e82 0 1 5375 0 1 6b04 0 1 721b 0 1 862d 0 1 9e1e 0 1 5d50 0 1 6feb 0 1 85cd 0 1 8964 0
    1 62c9 0 1 81d8 0 1 881f 0 1 5eca 0 1 6717 0 1 6d6a 0 1 72fc 0 1 90ce 0 1 4f86 0 1 51b7 0 1 52de
    0 1 64c4 0 1 6ad3 0 1 7210 0 1 76e7 0 1 8001 0 1 8606 0 1 865c 0 1 8def 0 1 9732 0 1 9b6f 0 1
    9dfa 0 1 788c 0 1 797f 0 1 7da0 0 1 83c9 0 1 9304 0 1 9e7f 0 1 8ad6 0 1 58df 0 1 5f04 0 1 7c60 0
    1 807e 0 1 7262 0 1 78ca 0 1 8cc2 0 1 96f7 0 1 58d8 0 1 5c62 0 1 6a13 0 1 6dda 0 1 6f0f 0 1 7d2f
    0 1 7e37 0 1 964b 0 1 52d2 0 1 808b 0 1 51dc 0 1 51cc 0 1 7a1c 0 1 7dbe 0 1 83f1 0 1 9675 0 1
    8b80 0 1 62cf 0 1 6a02 0 1 8afe 0 1 4e39 0 1 5be7 0 1 6012 0 1 7387 0 1 7570 0 1 5317 0 1 78fb 0
    1 4fbf 0 1 5fa9 0 1 4e0d 0 1 6ccc 0 1 6578 0 1 7d22 0 1 53c3 0 1 585e 0 1 7701 0 1 8449 0 1 8aaa
    0 1 6bba 0 1 8fb0 0 1 6c88 0 1 62fe 0 1 82e5 0 1 63a0 0 1 7565 0 1 4eae 0 1 5169 0 1 51c9 0 1
    6881 0 1 7ce7 0 1 826f 0 1 8ad2 0 1 91cf 0 1 52f5 0 1 5442 0 1 5973 0 1 5eec 0 1 65c5 0 1 6ffe 0
    1 792a 0 1 95ad 0 1 9a6a 0 1 9e97 0 1 9ece 0 1 529b 0 1 66c6 0 1 6b77 0 1 8f62 0 1 5e74 0 1 6190
    0 1 6200 0 1 649a 0 1 6f23 0 1 7149 0 1 7489 0 1 79ca 0 1 7df4 0 1 806f 0 1 8f26 0 1 84ee 0 1
    9023 0 1 934a 0 1 5217 0 1 52a3 0 1 54bd 0 1 70c8 0 1 88c2 0 1 8aaa 0 1 5ec9 0 1 5ff5 0 1 637b 0
    1 6bae 0 1 7c3e 0 1 7375 0 1 4ee4 0 1 56f9 0 1 5be7 0 1 5dba 0 1 601c 0 1 73b2 0 1 7469 0 1 7f9a
    0 1 8046 0 1 9234 0 1 96f6 0 1 9748 0 1 9818 0 1 4f8b 0 1 79ae 0 1 91b4 0 1 96b8 0 1 60e1 0 1
    4e86 0 1 50da 0 1 5bee 0 1 5c3f 0 1 6599 0 1 6a02 0 1 71ce 0 1 7642 0 1 84fc 0 1 907c 0 1 9f8d 0
    1 6688 0 1 962e 0 1 5289 0 1 677b 0 1 67f3 0 1 6d41 0 1 6e9c 0 1 7409 0 1 7559 0 1 786b 0 1 7d10
    0 1 985e 0 1 516d 0 1 622e 0 1 9678 0 1 502b 0 1 5d19 0 1 6dea 0 1 8f2a 0 1 5f8b 0 1 6144 0 1
    6817 0 1 7387 0 1 9686 0 1 5229 0 1 540f 0 1 5c65 0 1 6613 0 1 674e 0 1 68a8 0 1 6ce5 0 1 7406 0
    1 75e2 0 1 7f79 0 1 88cf 0 1 88e1 0 1 91cc 0 1 96e2 0 1 533f 0 1 6eba 0 1 541d 0 1 71d0 0 1 7498
    0 1 85fa 0 1 96a3 0 1 9c57 0 1 9e9f 0 1 6797 0 1 6dcb 0 1 81e8 0 1 7acb 0 1 7b20 0 1 7c92 0 1
    72c0 0 1 7099 0 1 8b58 0 1 4ec0 0 1 8336 0 1 523a 0 1 5207 0 1 5ea6 0 1 62d3 0 1 7cd6 0 1 5b85 0
    1 6d1e 0 1 66b4 0 1 8f3b 0 1 884c 0 1 964d 0 1 898b 0 1 5ed3 0 1 5140 0 1 55c0 0 3 585a 0 2 6674
    0 3 51de 0 1 732a 0 1 76ca 0 1 793c 0 1 795e 0 1 7965 0 1 798f 0 1 9756 0 1 7cbe 0 1 7fbd 0 2
    8612 0 2 8af8 0 3 9038 0 1 90fd 0 4 98ef 0 1 98fc 0 1 9928 0 1 9db4 0 1 90de 0 1 96b7 0 1 4fae 0
    1 50e7 0 1 514d 0 1 52c9 0 1 52e4 0 1 5351 0 1 559d 0 1 5606 0 1 5668 0 1 5840 0 1 58a8 0 1 5c64
    0 1 5c6e 0 1 6094 0 1 6168 0 1 618e 0 1 61f2 0 1 654f 0 1 65e2 0 1 6691 0 1 6885 0 1 6d77 0 1
    6e1a 0 1 6f22 0 1 716e 0 1 722b 0 1 7422 0 1 7891 0 1 793e 0 1 7949 0 1 7948 0 1 7950 0 1 7956 0
    1 795d 0 1 798d 0 1 798e 0 1 7a40 0 1 7a81 0 1 7bc0 0 1 7df4 0 1 7e09 0 1 7e41 0 1 7f72 0 1 8005
    0 1 81ed 0 1 8279 0 1 8279 0 1 8457 0 1 8910 0 1 8996 0 1 8b01 0 1 8b39 0 1 8cd3 0 1 8d08 0 1
    8fb6 0 1 9038 0 1 96e3 0 1 97ff 0 1 983b 0 1 6075 0 1 242ee 0 1 8218 0 3 4e26 0 1 51b5 0 1 5168
    0 1 4f80 0 1 5145 0 1 5180 0 1 52c7 0 1 52fa 0 1 559d 0 1 5555 0 1 5599 0 1 55e2 0 1 585a 0 1
    58b3 0 1 5944 0 1 5954 0 1 5a62 0 1 5b28 0 1 5ed2 0 1 5ed9 0 1 5f69 0 1 5fad 0 1 60d8 0 1 614e 0
    1 6108 0 1 618e 0 1 6160 0 1 61f2 0 1 6234 0 1 63c4 0 1 641c 0 1 6452 0 1 6556 0 1 6674 0 1 6717
    0 1 671b 0 1 6756 0 1 6b79 0 1 6bba 0 1 6d41 0 1 6edb 0 1 6ecb 0 1 6f22 0 1 701e 0 1 716e 0 1
    77a7 0 1 7235 0 1 72af 0 1 732a 0 1 7471 0 1 7506 0 1 753b 0 1 761d 0 1 761f 0 1 76ca 0 1 76db 0
    1 76f4 0 1 774a 0 1 7740 0 1 78cc 0 1 7ab1 0 1 7bc0 0 1 7c7b 0 1 7d5b 0 1 7df4 0 1 7f3e 0 1 8005
    0 1 8352 0 1 83ef 0 1 8779 0 1 8941 0 1 8986 0 1 8996 0 1 8abf 0 1 8af8 0 1 8acb 0 1 8b01 0 1
    8afe 0 1 8aed 0 1 8b39 0 1 8b8a 0 1 8d08 0 1 8f38 0 1 9072 0 1 9199 0 1 9276 0 1 967c 0 1 96e3 0
    1 9756 0 1 97db 0 1 97ff 0 1 980b 0 1 983b 0 1 9b12 0 1 9f9c 0 1 2284a 0 1 22844 0 1 233d5 0 1
    3b9d 0 1 4018 0 1 4039 0 1 25249 0 1 25cd0 0 1 27ed3 0 1 9f43 0 1 9f8e 0 44 5d9 b68 2 5f2 b6e b
    5e9 b82 1 5e9 b84 1 fb49 b82 1 fb49 b84 1 5d0 b6e 1 5d0 b70 1 5d0 b78 1 5d1 b78 1 5d2 b78 1 5d3
    b78 1 5d4 b78 1 5d5 b78 1 5d6 b78 2 5d8 b78 1 5d9 b78 1 5da b78 1 5db b78 1 5dc b78 2 5de b78 2
    5e0 b78 1 5e1 b78 2 5e3 b78 1 5e4 b78 2 5e6 b78 1 5e7 b78 1 5e8 b78 1 5e9 b78 1 5ea b78 1 5d5
    b72 1 5d1 b7e 1 5db b7e 1 5e4 b7e 154c 11099 22175 2 1109b 22175 f 110a5 22175 83 11131 2224f 1
    11132 2224f 21c 11347 2267d 1 11347 226af 16f 114b9 22975 1 114b9 22961 2 114b9 2297b fc 115b8
    22b5f 1 115b9 22b5f 37d 11935 23261 b826 1d157 3a2ca 1 1d158 3a2ca 1 1d15f 3a2dc 1 1d15f 3a2de 1
    1d15f 3a2e0 1 1d15f 3a2e2 1 1d15f 3a2e4 57 1d1b9 3a2ca 1 1d1ba 3a2ca 1 1d1bb 3a2dc 1 1d1bc 3a2dc
    1 1d1bb 3a2de 1 1d1bc 3a2de 12640 4e3d 0 1 4e38 0 1 4e41 0 1 20122 0 1 4f60 0 1 4fae 0 1 4fbb 0
    1 5002 0 1 507a 0 1 5099 0 1 50e7 0 1 50cf 0 1 349e 0 1 2063a 0 1 514d 0 1 5154 0 1 5164 0 1
    5177 0 1 2051c 0 1 34b9 0 1 5167 0 1 518d 0 1 2054b 0 1 5197 0 1 51a4 0 1 4ecc 0 1 51ac 0 1 51b5
    0 1 291df 0 1 51f5 0 1 5203 0 1 34df 0 1 523b 0 1 5246 0 1 5272 0 1 5277 0 1 3515 0 1 52c7 0 1
    52c9 0 1 52e4 0 1 52fa 0 1 5305 0 1 5306 0 1 5317 0 1 5349 0 1 5351 0 1 535a 0 1 5373 0 1 537d 0
    1 537f 0 1 537f 0 1 537f 0 1 20a2c 0 1 7070 0 1 53ca 0 1 53df 0 1 20b63 0 1 53eb 0 1 53f1 0 1
    5406 0 1 549e 0 1 5438 0 1 5448 0 1 5468 0 1 54a2 0 1 54f6 0 1 5510 0 1 5553 0 1 5563 0 1 5584 0
    1 5584 0 1 5599 0 1 55ab 0 1 55b3 0 1 55c2 0 1 5716 0 1 5606 0 1 5717 0 1 5651 0 1 5674 0 1 5207
    0 1 58ee 0 1 57ce 0 1 57f4 0 1 580d 0 1 578b 0 1 5832 0 1 5831 0 1 58ac 0 1 214e4 0 1 58f2 0 1
    58f7 0 1 5906 0 1 591a 0 1 5922 0 1 5962 0 1 216a8 0 1 216ea 0 1 59ec 0 1 5a1b 0 1 5a27 0 1 59d8
    0 1 5a66 0 1 36ee 0 1 36fc 0 1 5b08 0 1 5b3e 0 1 5b3e 0 1 219c8 0 1 5bc3 0 1 5bd8 0 1 5be7 0 1
    5bf3 0 1 21b18 0 1 5bff 0 1 5c06 0 1 5f53 0 1 5c22 0 1 3781 0 1 5c60 0 1 5c6e 0 1 5cc0 0 1 5c8d
    0 1 21de4 0 1 5d43 0 1 21de6 0 1 5d6e 0 1 5d6b 0 1 5d7c 0 1 5de1 0 1 5de2 0 1 382f 0 1 5dfd 0 1
    5e28 0 1 5e3d 0 1 5e69 0 1 3862 0 1 22183 0 1 387c 0 1 5eb0 0 1 5eb3 0 1 5eb6 0 1 5eca 0 1 2a392
    0 1 5efe 0 1 22331 0 1 22331 0 1 8201 0 1 5f22 0 1 5f22 0 1 38c7 0 1 232b8 0 1 261da 0 1 5f62 0
    1 5f6b 0 1 38e3 0 1 5f9a 0 1 5fcd 0 1 5fd7 0 1 5ff9 0 1 6081 0 1 393a 0 1 391c 0 1 6094 0 1
    226d4 0 1 60c7 0 1 6148 0 1 614c 0 1 614e 0 1 614c 0 1 617a 0 1 618e 0 1 61b2 0 1 61a4 0 1 61af
    0 1 61de 0 1 61f2 0 1 61f6 0 1 6210 0 1 621b 0 1 625d 0 1 62b1 0 1 62d4 0 1 6350 0 1 22b0c 0 1
    633d 0 1 62fc 0 1 6368 0 1 6383 0 1 63e4 0 1 22bf1 0 1 6422 0 1 63c5 0 1 63a9 0 1 3a2e 0 1 6469
    0 1 647e 0 1 649d 0 1 6477 0 1 3a6c 0 1 654f 0 1 656c 0 1 2300a 0 1 65e3 0 1 66f8 0 1 6649 0 1
    3b19 0 1 6691 0 1 3b08 0 1 3ae4 0 1 5192 0 1 5195 0 1 6700 0 1 669c 0 1 80ad 0 1 43d9 0 1 6717 0
    1 671b 0 1 6721 0 1 675e 0 1 6753 0 1 233c3 0 1 3b49 0 1 67fa 0 1 6785 0 1 6852 0 1 6885 0 1
    2346d 0 1 688e 0 1 681f 0 1 6914 0 1 3b9d 0 1 6942 0 1 69a3 0 1 69ea 0 1 6aa8 0 1 236a3 0 1 6adb
    0 1 3c18 0 1 6b21 0 1 238a7 0 1 6b54 0 1 3c4e 0 1 6b72 0 1 6b9f 0 1 6bba 0 1 6bbb 0 1 23a8d 0 1
    21d0b 0 1 23afa 0 1 6c4e 0 1 23cbc 0 1 6cbf 0 1 6ccd 0 1 6c67 0 1 6d16 0 1 6d3e 0 1 6d77 0 1
    6d41 0 1 6d69 0 1 6d78 0 1 6d85 0 1 23d1e 0 1 6d34 0 1 6e2f 0 1 6e6e 0 1 3d33 0 1 6ecb 0 1 6ec7
    0 1 23ed1 0 1 6df9 0 1 6f6e 0 1 23f5e 0 1 23f8e 0 1 6fc6 0 1 7039 0 1 701e 0 1 701b 0 1 3d96 0 1
    704a 0 1 707d 0 1 7077 0 1 70ad 0 1 20525 0 1 7145 0 1 24263 0 1 719c 0 1 243ab 0 1 7228 0 1
    7235 0 1 7250 0 1 24608 0 1 7280 0 1 7295 0 1 24735 0 1 24814 0 1 737a 0 1 738b 0 1 3eac 0 1
    73a5 0 1 3eb8 0 1 3eb8 0 1 7447 0 1 745c 0 1 7471 0 1 7485 0 1 74ca 0 1 3f1b 0 1 7524 0 1 24c36
    0 1 753e 0 1 24c92 0 1 7570 0 1 2219f 0 1 7610 0 1 24fa1 0 1 24fb8 0 1 25044 0 1 3ffc 0 1 4008 0
    1 76f4 0 1 250f3 0 1 250f2 0 1 25119 0 1 25133 0 1 771e 0 1 771f 0 1 771f 0 1 774a 0 1 4039 0 1
    778b 0 1 4046 0 1 4096 0 1 2541d 0 1 784e 0 1 788c 0 1 78cc 0 1 40e3 0 1 25626 0 1 7956 0 1
    2569a 0 1 256c5 0 1 798f 0 1 79eb 0 1 412f 0 1 7a40 0 1 7a4a 0 1 7a4f 0 1 2597c 0 1 25aa7 0 1
    25aa7 0 1 7aee 0 1 4202 0 1 25bab 0 1 7bc6 0 1 7bc9 0 1 4227 0 1 25c80 0 1 7cd2 0 1 42a0 0 1
    7ce8 0 1 7ce3 0 1 7d00 0 1 25f86 0 1 7d63 0 1 4301 0 1 7dc7 0 1 7e02 0 1 7e45 0 1 4334 0 1 26228
    0 1 26247 0 1 4359 0 1 262d9 0 1 7f7a 0 1 2633e 0 1 7f95 0 1 7ffa 0 1 8005 0 1 264da 0 1 26523 0
    1 8060 0 1 265a8 0 1 8070 0 1 2335f 0 1 43d5 0 1 80b2 0 1 8103 0 1 440b 0 1 813e 0 1 5ab5 0 1
    267a7 0 1 267b5 0 1 23393 0 1 2339c 0 1 8201 0 1 8204 0 1 8f9e 0 1 446b 0 1 8291 0 1 828b 0 1
    829d 0 1 52b3 0 1 82b1 0 1 82b3 0 1 82bd 0 1 82e6 0 1 26b3c 0 1 82e5 0 1 831d 0 1 8363 0 1 83ad
    0 1 8323 0 1 83bd 0 1 83e7 0 1 8457 0 1 8353 0 1 83ca 0 1 83cc 0 1 83dc 0 1 26c36 0 1 26d6b 0 1
    26cd5 0 1 452b 0 1 84f1 0 1 84f3 0 1 8516 0 1 273ca 0 1 8564 0 1 26f2c 0 1 455d 0 1 4561 0 1
    26fb1 0 1 270d2 0 1 456b 0 1 8650 0 1 865c 0 1 8667 0 1 8669 0 1 86a9 0 1 8688 0 1 870e 0 1 86e2
    0 1 8779 0 1 8728 0 1 876b 0 1 8786 0 1 45d7 0 1 87e1 0 1 8801 0 1 45f9 0 1 8860 0 1 8863 0 1
    27667 0 1 88d7 0 1 88de 0 1 4635 0 1 88fa 0 1 34bb 0 1 278ae 0 1 27966 0 1 46be 0 1 46c7 0 1
    8aa0 0 1 8aed 0 1 8b8a 0 1 8c55 0 1 27ca8 0 1 8cab 0 1 8cc1 0 1 8d1b 0 1 8d77 0 1 27f2f 0 1
    20804 0 1 8dcb 0 1 8dbc 0 1 8df0 0 1 208de 0 1 8ed4 0 1 8f38 0 1 285d2 0 1 285ed 0 1 9094 0 1
    90f1 0 1 9111 0 1 2872e 0 1 911b 0 1 9238 0 1 92d7 0 1 92d8 0 1 927c 0 1 93f9 0 1 9415 0 1 28bfa
    0 1 958b 0 1 4995 0 1 95b7 0 1 28d77 0 1 49e6 0 1 96c3 0 1 5db2 0 1 9723 0 1 29145 0 1 2921a 0 1
    4a6e 0 1 4a76 0 1 97e0 0 1 2940a 0 1 4ab2 0 1 29496 0 1 980b 0 1 980b 0 1 9829 0 1 295b6 0 1
    98e2 0 1 4b33 0 1 9929 0 1 99a7 0 1 99c2 0 1 99fe 0 1 4bce 0 1 29b30 0 1 9b12 0 1 9c40 0 1 9cfd
    0 1 4cce 0 1 4ced 0 1 9d67 0 1 2a0ce 0 1 4cf8 0 1 2a105 0 1 2a20e 0 1 2a291 0 1 9ebb 0 1 4d56 0
    1 9ef9 0 1 9efe 0 1 9f05 0 1 9f0f 0 1 9f16 0 1 9f3b 0 1 2a600 0"

/-- Runs of characters of one combining class: distance, length, class. -/
def classWords : Array Nat := hexWords
    "300 14 e6 1 0 e8 1 3 dc 1 0 e8 1 0 d8 1 4 dc 1 1 ca 1 3 dc 1 1 ca 1 a dc 1 4 1 1 3 dc 1 7 e6 1 0
    f0 1 0 e6 1 2 dc 1 2 e6 1 1 dc 2 2 e6 1 3 dc 1 0 e6 1 0 e8 1 1 dc 1 0 e6 1 0 e9 1 1 ea 1 0 e9 1
    1 ea 1 0 e9 1 c e6 114 4 e6 10a 0 dc 1 3 e6 1 0 dc 1 2 e6 1 0 de 1 0 dc 1 5 e6 1 5 dc 1 1 e6 1 0
    dc 1 1 e6 1 0 de 1 0 e4 1 0 e6 1 0 a 1 0 b 1 0 c 1 0 d 1 0 e 1 0 f 1 0 10 1 0 11 1 0 12 1 1 13 1
    0 14 1 0 15 1 0 16 2 0 17 2 0 18 1 0 19 2 0 e6 1 0 dc 2 0 12 49 7 e6 1 0 1e 1 0 1f 1 0 20 31 0
    1b 1 0 1c 1 0 1d 1 0 1e 1 0 1f 1 0 20 1 0 21 1 0 22 1 1 e6 1 1 dc 1 4 e6 1 0 dc 1 1 e6 1 0 dc 11
    0 23 66 6 e6 3 3 e6 1 0 dc 1 0 e6 3 1 e6 2 0 dc 1 1 e6 1 0 dc 24 0 24 1f 0 e6 1 0 dc 1 1 e6 1 0
    dc 1 1 e6 1 2 dc 1 0 e6 1 1 dc 1 0 e6 1 0 dc 1 2 e6 1 0 dc 1 0 e6 1 0 dc 1 0 e6 1 0 dc 1 0 e6 1
    0 dc 1 1 e6 a1 6 e6 1 0 dc 1 0 e6 a 0 dc 19 3 e6 2 8 e6 2 2 e6 2 4 e6 2c 2 dc 3d 0 e6 1 2 dc 1 3
    e6 2b 4 e6 1 4 dc 1 d e6 2 0 dc 1 1 e6 1 0 dc 1 1 e6 1 0 dc 1 2 e6 1 2 dc 1 0 1b 1 0 1c 1 0 1d 1
    2 e6 1 0 dc 1 1 e6 1 1 dc 1 4 e6 3d 0 7 11 0 9 4 0 e6 1 0 dc 1 1 e6 68 0 7 11 0 9 31 0 e6 3e 0 7
    11 0 9 6f 0 7 11 0 9 6f 0 7 11 0 9 80 0 9 6f 0 7 11 0 9 8 0 54 1 0 5b 66 0 7 11 0 9 6e 1 9 11 0
    9 7d 0 9 6e 1 67 1 0 9 e 3 6b 6d 1 76 1 0 9 e 3 7a 4d 1 dc 1c 0 dc 2 0 dc 2 0 d8 38 0 81 1 0 82
    2 0 84 6 3 82 3 0 82 2 1 e6 1 0 9 2 1 e6 3f 0 dc 71 0 7 2 1 9 53 0 dc 2d0 2 e6 3b5 1 9 1f 0 9 9e
    0 9 b 0 e6 cc 0 e4 90 0 de 1 0 e6 1 0 dc dc 0 e6 1 0 dc 48 0 9 15 7 e6 3 0 dc 31 4 e6 1 5 dc 1 1
    e6 1 0 dc 2 1 dc 1 1 e6 1 1 dc 1 4 e6 1 0 dc 1 3 e6 66 0 7 10 0 9 27 0 e6 1 0 dc 1 6 e6 37 1 9
    3b 0 7 c 1 9 44 0 7 99 2 e6 2 0 1 1 4 dc 1 1 e6 1 3 dc 1 0 e6 2 6 1 5 0 dc 7 0 e6 4 1 e6 c7 1 e6
    1 0 dc 1 6 e6 1 0 dc 1 1 e6 1 0 ea 1 0 d6 1 0 dc 1 0 ca 1 24 e6 1 0 e8 1 1 e4 1 0 dc 1 0 da 1 0
    e6 1 0 e9 1 0 dc 1 0 e6 1 0 dc 2d1 1 e6 1 1 1 1 3 e6 1 2 1 1 1 e6 5 0 e6 4 1 1 1 0 e6 1 0 dc 1 0
    e6 1 1 1 1 3 dc 1 0 e6 bff 2 e6 8e 0 9 61 1f e6 22b 0 da 1 0 e4 1 0 e8 1 0 de 1 1 e0 6a 1 8 75d5
    0 e6 5 9 e6 21 1 e6 51 1 e6 115 0 9 26 0 9 98 0 9 1c 11 e6 3a 2 dc 26 0 9 60 0 7 d 0 9 f0 0 e6 2
    1 e6 1 0 dc 3 1 e6 6 1 e6 2 0 e6 35 0 9 f7 0 9 4f31 0 1a 302 6 e6 1 6 dc 1 1 e6 3ce 0 dc e3 0 dc
    96 4 e6 693 0 dc 2 0 e6 29 0 e6 1 0 1 1 0 dc 5 0 9 a6 0 e6 1 0 dc 23e 3 e6 184 1 e6 9a 1 dc 1 2
    e6 1 0 dc 1 0 e6 1 3 dc 32 0 e6 1 0 dc 1 0 e6 1 0 dc c1 0 9 2a 0 9 f 0 9 3a 0 9 1 0 7 46 2 e6 31
    1 9 3f 0 7 4d 0 9 a 0 7 6b 0 9 1 0 7 b3 0 7 1 0 9 51 1 7 11 0 9 19 6 e6 4 4 e6 ce 0 9 4 0 7 18 0
    e6 64 0 9 1 0 7 fc 0 9 1 0 7 7f 0 9 77 0 9 1 0 7 74 0 9 10e 0 9 1 0 7 103 1 9 5 0 7 9d 0 9 54 0
    9 13 0 9 52 0 9 1a6 0 9 103 0 7 2 1 9 52 0 9 4d59 4 1 3c 6 e6 4ba 1 6 4cad 0 1 14c7 1 d8 1 2 1 4
    0 e2 1 4 d8 9 7 dc 3 4 e6 1 1 dc 1f 3 e6 95 2 e6 dbc 6 e6 2 10 e6 3 6 e6 2 1 e6 2 4 e6 106 6 e6
    178 0 e6 3e 3 e6 5e1 6 dc 6e 5 e6 1 0 7"

def markRanges : Ranges := .ofText
    "300 6f 114 6 108 2c 2 0 2 1 2 1 2 0 49 a 31 14 11 0 66 6 3 5 3 1 2 3 24 0 1f 1a 5c a 3b 8 a 0 19
    3 2 8 2 2 2 4 2c 2 3d 7 2b 17 2 20 37 2 2 11 2 6 b 1 1e 2 39 0 2 6 3 1 3 2 a 0 b 1 1b 0 3 2 39 0
    2 4 5 1 3 2 4 0 1f 1 4 0 c 2 39 0 2 7 2 2 2 2 15 1 17 5 2 2 39 0 2 6 3 1 3 2 8 2 b 1 1f 0 3c 4 4
    2 2 3 a 0 29 4 38 0 2 6 2 2 2 3 8 1 c 1 1e 2 39 0 2 6 2 2 2 3 8 1 c 1 1d 3 38 1 2 6 2 2 2 3 a 0
    b 1 1e 2 47 0 5 5 2 0 2 7 13 1 3e 0 3 6 d 7 63 0 3 8 c 5 4b 1 1c 0 2 0 2 0 5 1 32 13 2 1 6 a 2
    23 a 0 65 13 18 3 5 2 2 2 3 6 4 3 e b 2 0 b 3 2c0 2 3b3 3 1d 2 1e 1 1f 1 41 1f a 0 2e 2 2 0 76 1
    23 0 77 b 5 b dc 4 3a 9 2 1c 3 0 31 1e 32 4 30 10 27 8 d 2 1f c 39 d 31 13 99 2 2 14 5 0 7 0 3 2
    c7 3f 2d1 20 bff 2 8e 0 61 1f 22b 5 6a 1 75d5 3 2 9 21 1 51 1 111 0 4 0 5 0 18 4 5 0 54 1 33 11
    1b 11 e 0 27 7 1a c 2d 3 30 d 25 0 44 d d 0 9 1 2e 2 33 0 2 2 3 1 6 1 2 0 2a 4 6 1 ed 7 2 1 4f31
    0 2e2 f 11 f 3ce 0 e3 0 96 4 687 2 2 1 6 3 29 2 5 0 a6 1 23e 3 184 1 9a a 32 3 7b 2 36 e 2a 0 3
    1 b 3 2e a 8 0 3e 2 25 d 11 1 2d 0 d 2 31 d 9 3 2 1 5d b 7 0 a1 b 16 3 38 1 2 6 3 1 3 2 a 0 b 1
    3 6 4 4 c1 11 18 0 52 13 ec 6 3 8 1c 1 53 10 6b c 66 e 101 e f6 5 2 1 3 3 2 0 2 1 8e 6 3 6 4 0
    1d 9 29 6 2 3 9 0 a a 2f f 196 7 2 7 53 15 2 d 7b 5 4 0 2 1 2 6 2 0 43 4 2 1 2 4 15c 3 4bfa 4 3c
    6 419 0 2 36 8 3 52 0 c 1 4cac 1 1262 2d 3 16 21f 4 4 5 9 7 3 6 1f 3 95 2 7bc 36 5 31 9 0 f 0 17
    4 2 e 551 6 2 10 3 6 2 1 2 4 106 6 178 0 3e 3 5e1 6 6e 6 c17b6 ef"

def isMark (c : Char) : Bool := markRanges.contains c.toNat

end FormBuilder.Text
