/-! The clocks of the world: which zones there are, and when their clocks were set. -/
namespace FormBuilder

/-- For each zone its names, then after `=` the offsets it has had in seconds, the first one first;
after `|` its changes, each a letter for the offset that begins and the time since the change before,
in quarters of an hour or, after a point, in seconds; after the next `|` the first year of the rule
it follows since, with the two offsets of that rule and its two days. -/
def zoneWords : String :=
    "Africa/Abidjan = -968 0 | B.1gf3w3s | ; Africa/Accra = -52 0 1200 1800 |
    B.1if6becC.24aamkB.1yhyoC.cjvlcB.69weoC.ci0xcB.69weoC.ci0xcB.69weoC.ci0xcB.69weoC.cjvlcB.69weo
    C.ci0xcB.69weoC.ci0xcB.69weoC.ci0xcB.69weoC.cjvlcB.69weoC.ci0xcB.69weoC.ci0xcB.69weoC.ci0xc
    B.69weoC.cjvlcB.69weoC.ci0xcB.69weoC.ci0xcB.69weoC.ci0xcB.69weoC.cjvlcB.69weoC.ci0xcB.69weo
    C.ci0xcB.69weoC.ci0xcB.69weoC.683lcB.cloeoC.668xcB.cloeoD.1y8pcB2xryD3huyB91aDi02B91aDi2qB91a
    Di02B91aDi02B91aDi02B91a | ; Africa/Addis_Ababa = 9288 9320 10800 | B.ui246wC.ymedb4 | ;
    Africa/Algiers = 732 561 0 3600 7200 |
    B.15kf1gkC.afgo4rD.2qx1nlC82oDcw0CelcDbc0CfmoDatcCg5cD9s0Cio0DaioC7c0Ddp1cC51gD79kE3318Ddx8
    Ed1gDcd4CslcD6zxgC5eykD61c0CbeoD47pgEnuoDdhgCtjsDdhgCe04Ddh8 | ; Africa/Asmara Africa/Asmera =
    9332 9320 10800 | B.14xtw5oC.o6mlcc | ; Africa/Bamako Africa/Timbuktu = -1920 0 -3600 |
    B.1gf3wu8C.bk956oBjrxg | ; Africa/Bangui = 4460 3600 | B.1gf3rx0 | ; Africa/Banjul = -3996 -3600
    0 | B.1ric6fwC.4m1rp0 | ; Africa/Bissau = -3740 -3600 0 | B.1gf3y4wC1bcio | ; Africa/Blantyre =
    8400 8470 8460 7200 | B.1g6tjjkC.1j56m2D.5qqlca | ; Africa/Brazzaville = 3668 3600 | B.1gf3sj0 |
    ; Africa/Bujumbura = 7048 7200 | B.14xtxx4 | ; Africa/Cairo Egypt = 7509 7200 10800 |
    B.1ajqg8bC.krj48lB5rwCeisBbekCelgBfh8Cbk4BfukCb9gBfukCcasBeqkC8npgBanwCfpgBbbwCfpkBb9gCfukBb9g
    CfrwBb9gCfrwBb9gCfrwBb9gCfukBb9gCfrwBb9gCfrwBbc4Cfp8Bbc4CfrwBbc4Cfp8Bbc4Cfp8Bbc4Cfp8Bbc4Cfrw
    Bbc4Cfp8Bbc4Cfp8Bbc4Cfp8Bbc4CfrwBbc4Cfp8Bbc4Cfp8Bbc4Cfp8Bbc4CfrwBbc4Cfp8Bbc4ClzwB51gCl18B604
    CfrwBbc4Cfp8Bbc4Cfp8Bbc4Cfp8Bbc4CfrwBbc4Cg2kBaysCfp8Bbc4Cfp8Bbc4CfrwBbc4Cfp8Bbc4Cfp8Bbc4Cfh4
    BbekCfk4BbekCfk4BbekCfk4BbekCg2sBbekCfk4BbekCfk4BbekCfk4BbekCfk4BbekCg2sBbekCfk4BbekCfk4Bavw
    Cg2sB9ukCh44B9bwChmsB8t8Cio4B7mkC284B1jwC2q04B33wC2lgB458 | 2023 7200 10800 4 5 5 0 10 5 4 86400
    ; Africa/Casablanca = -1820 0 3600 |
    B.1hd9jfgC.di7nxgB518C79gB4b18C3fesBad8Cch04B8ukC522sB53wC191gB6t8Ck84Bb3wCi84B4qkC47xgB1cl8
    Cgug4B6t8Ck84B5zwCitgB798ChmsB8t8Ck8cB62oC2aoB31cCfk0B56oC2ioB5s0CbeoB6o0C2lcB6aoCbeoB5pcC2lc
    B79cCbeoB56oC2lcB8aoCaw0B45cC340B8tcCaw0B3moC2lcBnuoC2lcBnc0C340Bnc0C2lcBnc0C340Bnc0C2lcBnuo
    C2lcBnc0C340Bnc0C2lcBnuoC2lcBnc0C340Bnc0C2lcBnc0C340Bnc0C2lcBnuoC2lcBnc0C340Bnc0C2lcBnc0C340
    Bnc0C340Bnc0C2lcBnc0C340Bnc0C2lcBnuoC2lcBnc0C340Bnc0C2lcBnc0C340Bnc0C340Bnc0C2lcBnc0C340Bnc0
    C2lcBnuoC2lcBnc0C340Bnc0C2lcBnc0C340Bnc0C340Bnc0C2lcBnc0C340Bnc0C2lcBnuoC2lcBnc0C340Bnc0C2lc
    Bnc0C340Bnc0C340Bnc0C2lcBnc0C340Bnc0C2lcBnuoC2lcBnc0C340Bnc0C2lcBnc0C340Bnc0C340Bnc0C2lcBnc0
    C340Bnc0C2lcBnuoC2lcBnc0C340Bnc0C2lcBnc0C340Bnc0C340Bnc0C2lcBnc0C340Bnc0C2lcBnuoC2lcBnc0C340
    Bnc0C2lcBnc0C340Bnc0C2lcBnuoC2lcBnc0C340Bnc0C2lcBnuoC2lcBnc0C340 | ; Africa/Ceuta = -1276 0 3600
    7200 |
    B.1aogzcwCd198BbekC45hgBco4C15h8Bcg4CdzwBcysCeioBcyoCt1tcB8ukC522sB53wC191gB6t8Ck84Bb3wCi84
    B4qkC47xgD1j44CdhcDdhcCdhcDdhcCdhcDdhcCdhcDdhcCe00DdhcCdhcDdhcCdhcDdhcCdhcDdhcCdhcDdhcCdhc |
    1996 3600 7200 3 5 0 7200 10 5 0 10800 ; Africa/Conakry = -3292 0 -3600 | B.1gf3xwcC.bk944kBjf9g
    | ; Africa/Dakar = -4184 -3600 0 | B.1gf3yl4C.fcoa7s | ; Africa/Dar_es_Salaam = 9428 10800 9900
    | B.1qc3ir0C.8ve49wB9rs1 | ; Africa/Djibouti = 10356 10800 | B.1g5mwp8 | ; Africa/Douala = 2328
    3600 | B.1gf3tk8 | ; Africa/El_Aaiun = -3168 -3600 0 3600 |
    B.1rwhf4wC.m2g0c0D198C6t8Dk84Cb3wDi84C4qkDmeysC6t8Dk84C5zwDitgC798DhmsC8t8Dk8cC62oD2aoC31cDfk0
    C56oD2ioC5s0DbeoC6o0D2lcC6aoDbeoC5pcD2lcC79cDbeoC56oD2lcC8aoDaw0C45cD340C8tcDaw0C3moD2lcCnuo
    D2lcCnc0D340Cnc0D2lcCnc0D340Cnc0D2lcCnuoD2lcCnc0D340Cnc0D2lcCnuoD2lcCnc0D340Cnc0D2lcCnc0D340
    Cnc0D2lcCnuoD2lcCnc0D340Cnc0D2lcCnc0D340Cnc0D340Cnc0D2lcCnc0D340Cnc0D2lcCnuoD2lcCnc0D340Cnc0
    D2lcCnc0D340Cnc0D340Cnc0D2lcCnc0D340Cnc0D2lcCnuoD2lcCnc0D340Cnc0D2lcCnc0D340Cnc0D340Cnc0D2lc
    Cnc0D340Cnc0D2lcCnuoD2lcCnc0D340Cnc0D2lcCnc0D340Cnc0D340Cnc0D2lcCnc0D340Cnc0D2lcCnuoD2lcCnc0
    D340Cnc0D2lcCnc0D340Cnc0D340Cnc0D2lcCnc0D340Cnc0D2lcCnuoD2lcCnc0D340Cnc0D2lcCnc0D340Cnc0D340
    Cnc0D2lcCnc0D340Cnc0D2lcCnuoD2lcCnc0D340Cnc0D2lcCnc0D340Cnc0D2lcCnuoD2lcCnc0D340Cnc0D2lcCnuo
    D2lcCnc0D340 | ; Africa/Freetown = -3180 -3600 -2400 0 |
    B.1h78wh8C.a4v6zoB.681qoC.7vcxcB.awkeoC.7vcxcB.awkeoC.7vcxcB.ayf2oC.7vcxcB.awkeoC.7vcxcB.awkeo
    C.7vcxcB.e1j2oC.4qe9cB.7dqoD.16dy9c | ; Africa/Gaborone = 6220 5400 7200 10800 |
    B.12bwh84C.9h5hysDuh6uCdh8 | ; Africa/Harare = 7452 7200 | B.1bt1xlw | ; Africa/Johannesburg =
    6720 5400 7200 10800 | B.161c668C.5rpt0oDtq86Cdh8DdhgCdh8 | ; Africa/Juba = 7588 7200 10800 |
    B.1qc3k64C.kixuysBcd8CelgBcfwCeo4BcfwCeisBcikCeg4Bcl8CedgBcnwCeasBct8Ce5gBcvwCelgBcfwCeisBcik
    Ceg4BcnwCeasBcqkCe84Bct8Ce5gBcvwCelgBcikCeg4Bcl8CaplgBftfw | ; Africa/Kampala = 7780 10800 9000
    9900 | B.1p12yosC.s8lo4DdiyqB6rjz | ; Africa/Khartoum = 7808 7200 10800 |
    B.1qc3k00C.kixv4wBcd8CelgBcfwCeo4BcfwCeisBcikCeg4Bcl8CedgBcnwCeasBct8Ce5gBcvwCelgBcfwCeisBcik
    Ceg4BcnwCeasBcqkCe84Bct8Ce5gBcvwCelgBcikCeg4Bcl8CaplgBddfw | ; Africa/Kigali = 7216 7200 |
    B.1sn0r4g | ; Africa/Kinshasa = 3672 3600 | B.191ez6w | ; Africa/Lagos = 815 0 1800 3600 |
    B.1d0xpe9A.1kdnanC.2ve7ddD.2yfgkn | ; Africa/Libreville = 2268 3600 | B.1gf3tlw | ; Africa/Lome
    = 292 0 | B.16i7pss | ; Africa/Luanda = 3176 3124 3600 | B.15zdvkoC.afpx08 | ; Africa/Lubumbashi
    = 6592 3600 7200 | B.191ewxsC.bpwyb4 | ; Africa/Lusaka = 6788 7200 | B.1bt1y4c | ; Africa/Malabo
    = 2108 0 3600 | B.1gf3tqcC.r44sak | ; Africa/Maputo = 7818 7200 | B.1eurxbq | ; Africa/Maseru =
    6600 7200 10800 | B.1bt1y9kC.l5xrrcBdh8 | ; Africa/Mbabane = 7464 7200 | B.1bt1xlk | ;
    Africa/Mogadishu = 10888 10800 9000 | B.16xugagC.je91egBjjhe | ; Africa/Monrovia = -2588 -2670 0
    | B.1k5odcsC.rl202a | ; Africa/Nairobi = 8836 9000 10800 9900 | B.1ei677gC.aiwqjgB14ymD5942C46yn
    | ; Africa/Ndjamena = 3612 3600 7200 | B.1gf3skkC.zdk5ccBat8 | ; Africa/Niamey = 508 -3600 0
    3600 | B.1gf3uysC.bk99u4Djf98 | ; Africa/Nouakchott = -3828 0 -3600 | B.1gf3yb8C.bk93poBk3us | ;
    Africa/Ouagadougou = -364 0 | B.1gf3vn0 | ; Africa/Porto-Novo = 628 0 3600 | B.1gf3uvgC.bk975g |
    ; Africa/Sao_Tome = 1616 -2205 0 3600 | B.11t2ss0C.em12kwD27nxgCr1c | ; Africa/Tripoli Libya =
    3164 3600 7200 |
    B.1klewx0C.gl6ajwB5ucC1bxoB67oC1b6sB6vwC296sBhaakC6o4BdjwCdhgBdjwCdk4BdjwCdusBd6kCdpgBdh8Cdc4
    BdjwCdk4BdjwCdhgBdjwCfxgB4tekCds4Bbq5gCaao | ; Africa/Tunis = 2444 561 3600 7200 |
    B.10fhlh0C.fke44bD.enxevlCg2oD7c0C17k0DbesChmwDaw0C1ekDlgCbzwDdhgCdx0Dd1oCcd0DnrhgCaw0Dg80Cbc0
    D79k0C8lcDdhcCdhcDg80Cb9cDaylcCb9gDd44Cg2oDaw0Cg2oDbeoCfk0 | ; Africa/Windhoek = 4104 5400 7200
    10800 3600 |
    B.161c86wC.5rpr00Dtq86Cdh8E12bukCcdoEfjwCbesEg2kCaw4Eg2kCbesEfjwCbesEfjwCbesEfjwCbesEfjwCbes
    Eg2kCaw4Eg2kCbesEfjwCbesEfjwCbesEfjwCbesEfjwCbesEg2kCbesEfjwCbesEfjwCbesEfjwCbesEfjwCbesEg2k
    Caw4Eg2kCbesEfjwCbesEfjwCbesEfjwCbes | ; America/Adak America/Atka US/Aleutian = 44002 -42398
    -39600 -36000 -32400 |
    B.tcnm4xC.h4z1xpD.ln70qaC2qfwDhps4Cdh8DdhgCdh8DdhgCdzwDdhgCdh8DdhgCdh8D56sClrwD8tgCi58DdhgCdzw
    DcysCdzwDdhgCdh8DdhgCdh8DdhgCdh8DdhgCdh8DdhgCdzwDcysErh8Ddh8EdhgDdh8EdhgDdh8EbxgDf18EbxgDfjw
    EbesDfjwEbesDfjwEbxgDf18EbxgDf18EbxgDfjwEbesDfjwEbesDfjwEbxgDf18EbxgDf18EbxgDf18EbxgDfjwEbes
    DfjwEbesDfjwEbxgDf18EbxgDf18EbxgDfjwEbesDfjwEbesDfjw | 2007 -36000 -32400 3 2 0 7200 11 1 0 7200
    ; America/Anchorage US/Alaska = 50424 -35976 -36000 -32400 -28800 |
    B.tcnm4xC.h4ywzbD.ln72woC2qfwDhps4Cdh8DdhgCdh8DdhgCdzwDdhgCdh8DdhgCdh8D56sClrwD8tgCi58DdhgCdzw
    DcysCdzwDdhgCdh8DdhgCdh8DdhgCdh8DdhgCdh8DdhgCdzwDcysErh8Ddh8EdhgDdh8EdhgDdh8EbxgDf18EbxgDfjw
    EbesDfjwEbesDfjwEbxgDf18EbxgDf18EbxgDfjwEbesDfjwEbesDfjwEbxgDf18EbxgDf18EbxgDf18EbxgDfjwEbes
    DfjwEbesDfjwEbxgDf18EbxgDf18EbxgDfjwEbesDfjwEbesDfjw | 2007 -32400 -28800 3 2 0 7200 11 1 0 7200
    ; America/Anguilla = -15136 -14400 | B.1gi95pc | ; America/Antigua = -14832 -18000 -14400 |
    B.1gi95gwC.k9mqg0 | ; America/Araguaina = -11568 -10800 -7200 |
    B.1hgptm8C.99k8moBddcCdpgBdbwCciysBa2oCgyoB8ykCi2sB918Ci2sB6nwC83hgB658Cow4B4d8Ci5gB6nwCi5g
    B8vwCi5gB8ykCda5gB9ukCglgB8akCiqsB7rwCio4B7rwCj6sB8t8C49hgB8t8ChmsB9ukCh6sBat8CglgB9ukCglgBavw
    CglgB9ukChmsB9bwCj6sB7rwC79usB8t8 | ; America/Argentina/Buenos_Aires America/Buenos_Aires =
    -14028 -15408 -14400 -10800 -7200 |
    B.17gl26kC.db2bqcD.5iv8k0C8ykDelgCa7wDi5gC8vwDi5gC8vwDi5gC8vwDi5gC8ykDi5gC8vwDi5gC8vwDi5gC8vw
    Di5gC8ykD91gCpukD91gC1cikD5k4C1sakDfusCcrx8D5k4C5p8Dgw4Ca58Dgw4Ca58Dgw4CcikDdhgCdzwDdhgCdh8
    DdhgE38d8D798Eayo4D6ykEglgDad8Eh44D9ukEh44D9ukEh44Dad8Eb4tgD5p8Eg2sDavw | ;
    America/Argentina/Catamarca America/Argentina/ComodRivadavia America/Catamarca = -15788 -15408
    -14400 -10800 -7200 |
    B.17gl3jgC.db2adgD.5iv8k0C8ykDelgCa7wDi5gC8vwDi5gC8vwDi5gC8vwDi5gC8ykDi5gC8vwDi5gC8vwDi5gC8vw
    Di5gC8ykD91gCpukD91gC1cikD5k4C1sakDfusCcrx8D5k4C5p8Dgw4Ca58Dgw4Ca58Dgw4CcikDdhgCdzwDdhgCdh8
    DdhgE38d8D798Eayo4D6ykEglgDad8Eh44C9ukEh48D9ugEh44Dad8C8g04D1esE2nekD5p8 | ;
    America/Argentina/Cordoba America/Cordoba America/Rosario = -15408 -14400 -10800 -7200 |
    B.1krndwwC.5iv8k0B8ykCelgBa7wCi5gB8vwCi5gB8vwCi5gB8vwCi5gB8ykCi5gB8vwCi5gB8vwCi5gB8vwCi5gB8yk
    C91gBpukC91gB1cikC5k4B1sakCfusBcrx8C5k4B5p8Cgw4Ba58Cgw4Ba58Cgw4BcikCdhgBdzwCdhgBdh8CdhgD38d8
    C798Dayo4C6ykDglgCad8Dh44B9ukDh48C9ugDh44Cad8Db4tgC5p8Dg2sCavw | ; America/Argentina/Jujuy
    America/Jujuy = -15672 -15408 -14400 -10800 -7200 |
    B.17gl3g8C.db2agoD.5iv8k0C8ykDelgCa7wDi5gC8vwDi5gC8vwDi5gC8vwDi5gC8ykDi5gC8vwDi5gC8vwDi5gC8vw
    Di5gC8ykD91gCpukD91gC1cikD5k4C1sakDfusCcrx8D5k4C5p8Dgw4Ca58Dgw4Ca58Dgw4CcikDdhgCdzwDdhgCdh8
    DdhgE38d8D798Eayo4D6ykEglgCad8DhmwCad8Ef1gDavsEh44Dad8Eb4tgD5p8 | ; America/Argentina/La_Rioja =
    -16044 -15408 -14400 -10800 -7200 |
    B.17gl3qkC.db2a6cD.5iv8k0C8ykDelgCa7wDi5gC8vwDi5gC8vwDi5gC8vwDi5gC8ykDi5gC8vwDi5gC8vwDi5gC8vw
    Di5gC8ykD91gCpukD91gC1cikD5k4C1sakDfusCcrx8D5k4C5p8Dgw4Ca58Dgw4Ca58Dgw4CcikDdhgCdzwDdhgCdh8
    DdhgE38d8D798Eayo4D6ykEglgDad8Eh44C9p8D4ywEcakD9ukEh44Dad8C8g04D1esE2nekD5p8 | ;
    America/Argentina/Mendoza America/Mendoza = -16516 -15408 -14400 -10800 -7200 |
    B.17gl43oC.db29t8D.5iv8k0C8ykDelgCa7wDi5gC8vwDi5gC8vwDi5gC8vwDi5gC8ykDi5gC8vwDi5gC8vwDi5gC8vw
    Di5gC8ykD91gCpukD91gC1cikD5k4C1sakDfusCcrx8D5k4C5p8Dgw4Ca58Dgw4Ca58Dgw4CcikDdhgCdzwDdhgCdh8
    DdhgE38d8D798Eayo4D6ykEglgCad8Dgo8Ca58Dgw4Ca7wEh44Dad4C8fc4D9c4E2g58D5p8 | ;
    America/Argentina/Rio_Gallegos = -16612 -15408 -14400 -10800 -7200 |
    B.17gl46cC.db29qkD.5iv8k0C8ykDelgCa7wDi5gC8vwDi5gC8vwDi5gC8vwDi5gC8ykDi5gC8vwDi5gC8vwDi5gC8vw
    Di5gC8ykD91gCpukD91gC1cikD5k4C1sakDfusCcrx8D5k4C5p8Dgw4Ca58Dgw4Ca58Dgw4CcikDdhgCdzwDdhgCdh8
    DdhgE38d8D798Eayo4D6ykEglgDad8Eh44D9ukEh44D9ukEh44Dad8C8g04D1esE2nekD5p8 | ;
    America/Argentina/Salta = -15700 -15408 -14400 -10800 -7200 |
    B1ql05C.db2afwD.5iv8k0C8ykDelgCa7wDi5gC8vwDi5gC8vwDi5gC8vwDi5gC8ykDi5gC8vwDi5gC8vwDi5gC8vwDi5g
    C8ykD91gCpukD91gC1cikD5k4C1sakDfusCcrx8D5k4C5p8Dgw4Ca58Dgw4Ca58Dgw4CcikDdhgCdzwDdhgCdh8Ddhg
    E38d8D798Eayo4D6ykEglgDad8Eh44C9ukEh48D9ugEh44Dad8Eb4tgD5p8 | ; America/Argentina/San_Juan =
    -16444 -15408 -14400 -10800 -7200 |
    B.17gl41oC.db29v8D.5iv8k0C8ykDelgCa7wDi5gC8vwDi5gC8vwDi5gC8vwDi5gC8ykDi5gC8vwDi5gC8vwDi5gC8vw
    Di5gC8ykD91gCpukD91gC1cikD5k4C1sakDfusCcrx8D5k4C5p8Dgw4Ca58Dgw4Ca58Dgw4CcikDdhgCdzwDdhgCdh8
    DdhgE38d8D798Eayo4D6ykEglgDad8Eh44C9p8D4ywEcakD9ukEh44Dad8C8fxgD42sE2kt8D5p8 | ;
    America/Argentina/San_Luis = -15924 -15408 -14400 -10800 -7200 |
    B.17gl3n8C.db2a9oD.5iv8k0C8ykDelgCa7wDi5gC8vwDi5gC8vwDi5gC8vwDi5gC8ykDi5gC8vwDi5gC8vwDi5gC8vw
    Di5gC8ykD91gCpukD91gC1cikD5k4C1sakDfusCcrx8D5k4C5p8Dgw4Ca58Dgw4Ca58Dgw4CcikDdhgCdzwDdhgCdh8
    DdhgE38d8D798Eayo4D6ykEglgCb3wDfxkCa58D6tgC9rp8D42sE2kt8D1mkC3k4Dg2sCavwDg2s | ;
    America/Argentina/Tucuman = -15652 -15408 -14400 -10800 -7200 |
    B.17gl3foC.db2ah8D.5iv8k0C8ykDelgCa7wDi5gC8vwDi5gC8vwDi5gC8vwDi5gC8ykDi5gC8vwDi5gC8vwDi5gC8vw
    Di5gC8ykD91gCpukD91gC1cikD5k4C1sakDfusCcrx8D5k4C5p8Dgw4Ca58Dgw4Ca58Dgw4CcikDdhgCdzwDdhgCdh8
    DdhgE38d8D798Eayo4D6ykEglgDad8Eh44C9ukEh48D9ugEh44Dad8C8g04Dw4E2nx8D5p8Eg2sDavw | ;
    America/Argentina/Ushuaia = -16392 -15408 -14400 -10800 -7200 |
    B.17gl408C.db29woD.5iv8k0C8ykDelgCa7wDi5gC8vwDi5gC8vwDi5gC8vwDi5gC8ykDi5gC8vwDi5gC8vwDi5gC8vw
    Di5gC8ykD91gCpukD91gC1cikD5k4C1sakDfusCcrx8D5k4C5p8Dgw4Ca58Dgw4Ca58Dgw4CcikDdhgCdzwDdhgCdh8
    DdhgE38d8D798Eayo4D6ykEglgDad8Eh44D9ukEh44D9ukEh44Dad8C8fusD1k4E2nekD5p8 | ; America/Aruba =
    -16824 -16200 -14400 | B.1gha0c8C.rlo7io | ; America/Asuncion = -13840 -14400 -10800 |
    B.1qqm8pcC.ldwofkB14ikC14lgBb98CfusBb6kCfusBb6kCfusBdh8Cdk4BdjwCdk4Bdh8Cdk4Bdh8Cdk4Bdh8Cdk4
    BdjwCdk4Bdh8Cdk4Bdh8Cdk4Bdh8Cdk4BdjwCdk4Bdh8Cf44Bbx8Cdk4Bdh8CdxgBavwCg5gBd3wCdmsBb18Cg04Bayk
    Cg2sBb98Cg84Bad8CglgBavwCg2sBbekCfk4BbekCfk4BbekCg2sBdh8Caw4Bg2kCbesBfjwCeisBavwCg2sBavwCg2s
    BavwCglgBad8CglgBad8CglgBcykCcysBdzwCcysBdzwCdhgBcfwCeisBcfwCeisBcfwCeisBcykCe04BcykCe04Bcyk
    CeisBcfwCeisBcfwCeisBcykCe04BcykCe04BcykCe04BcykCeis | ; America/Atikokan America/Coral_Harbour
    = -21988 -21600 -18000 | B.17js1noC.c5efx8BeikCgh6k | ; America/Bahia = -9244 -10800 -7200 |
    B.1hgprtoC.99kaf8BddcCdpgBdbwCciysBa2oCgyoB8ykCi2sB918Ci2sB6nwC83hgB658Cow4B4d8Ci5gB6nwCi5g
    B8vwCi5gB8ykCda5gB9ukCglgB8akCiqsB7rwCio4B7rwCj6sB8t8Cio4B8t8Ci5gB8akCj6sB798Cj6sB9bwChmsB9bw
    ChmsB8t8ChmsB9ukCh6sBat8CglgB9ukCglgBavwCglgB9ukChmsB9bwCj6sB7rwC6idgB9uk | ;
    America/Bahia_Banderas = -25260 -25200 -21600 -18000 |
    B.1ln184wC4340B2kvwCcasBbekCdk4B7k7wC14jscBf18CbxgBf18CbxgBf18CbxgBfjwCbesBfjwCe04BavwCe04Bf18
    CbxgBf18CbxgBfjwCbesBfjwCbesBfjwCbesBfjwCbxgBf18CbxgBf18DbxgCfjsDbesCfjwDbesCfjwDbxgCf18Dbxg
    Cf18DbxgCf18DbxgCfjwDbesCfjwDbesCfjwDbxgCf18DbxgCf18DbxgCfjwDbesCfjw | ; America/Barbados =
    -14309 -14400 -10800 -12600 |
    B.1g8muedC.fzq06jB9xgCi2kB9c4Dg58Bbc4Com5cB8akCeisBcfwCeisBcfwCf1gBbp8 | ; America/Belem =
    -11636 -10800 -7200 |
    B.1hgpto4C.99k8ksBddcCdpgBdbwCciysBa2oCgyoB8ykCi2sB918Ci2sB6nwC83hgB658Cow4B4d8Ci5gB6nwCi5g
    B8vwCi5gB8ykCda5gB9ukCglgB8akCiqsB7rw | ; America/Belize = -21168 -21600 -19800 -18000 |
    B.1gjsucwC.3edkc0B9byChmqB9umCh42B9umCh42B9umChmqB9byChmqB9byChmqB9umCh42B9umCh42B9umCh42B9um
    ChmqB9byChmqB9byChmqB9umCh42B9umCh42B9umChmqB9byChmqB9byChmqB9byChmqB9umCh42B9umCh42B9umChmq
    B9byChmqB9byChmqB9umD9uqB2lukC1cqsB9umCh42B9umCh42B9umChmqB9byChmqB9byChmqB9umCh42B9umCh42B9um
    Ch42B9umChmqB9byChmqB9byChmqB9umCh42B9umCh42B9umChmqB9byChmqB9byChmqB9byChmqB9umCh42B9umCh42
    B9umChmqB9byD4dc2B4vwD6nk4B458 | ; America/Blanc-Sablon = -13708 -14400 -10800 |
    B.11t34loC.hw37f8BeikChi2sB2qfw | ; America/Boa_Vista = -14560 -14400 -10800 |
    B.1hgpvxcC.99k93kBddcCdpgBdbwCciysBa2oCgyoB8ykCi2sB918Ci2sB6nwC83hgB658Cow4B4d8Ci5gB6nwCi5g
    B8vwCi5gB8ykCda5gB9ukCglgB8akCiqsB7rwC8r9gBavwCglgBik | ; America/Bogota = -17776 -18000 -14400
    | B.1hxhnqoC.14f1hi8Bkqk | ; America/Boise = -27889 -28800 -25200 -21600 |
    B.11quw8wCpto8BfjwCbesBfjwC2nxgDe36kC2qfwDg7usCdh8DdhgCdh8DdhgCdh8DdhgCdh8DdhgCdzwDdhgCdh8Ddhg
    Cdh8D79gCjp8D8tgCi58DdhgCdzwDcysCdzwDdhgCdh8DdhgCdh8DdhgCdh8DdhgCdh8DdhgCdzwDcysCdzwDdhgCdh8
    DdhgCdh8DdhgCdh8DbxgCf18DbxgCfjwDbesCfjwDbesCfjwDbxgCf18DbxgCf18DbxgCfjwDbesCfjwDbesCfjwDbxg
    Cf18DbxgCf18DbxgCf18DbxgCfjwDbesCfjwDbesCfjwDbxgCf18DbxgCf18DbxgCfjwDbesCfjwDbesCfjw | 2007
    -25200 -21600 3 2 0 7200 11 1 0 7200 ; America/Cambridge_Bay = 0 -25200 -21600 -18000 |
    B.1klezcwCgm6cB2qfwCjz6sBdh8CdhgBdh8CdhgBdh8CdhgBdh8CdhgBdzwCcysBdzwCdhgBdh8CdhgBdh8CdhgBdh8
    CdhgBdh8CdhgBdzwCcysBdzwCdhgBdh8CdhgBdh8CdhgBdh8CbxgBf18CbxgBfjwCbesBfjwCbesBfjwCbxgBf18Cbxg
    Bf18CbxgBfjwCbesBfjwCbesBfjwCbxgBf18CbxgBf18CbxgBf18CbxgDqykCg2cBqgcCbxgBf18CbxgBf18CbxgBfjw
    CbesBfjwCbesBfjw | 2007 -25200 -21600 3 2 0 7200 11 1 0 7200 ; America/Campo_Grande = -13108
    -14400 -10800 |
    B.1hgput0C.99ka7wBddcCdpgBdbwCciysBa2oCgyoB8ykCi2sB918Ci2sB6nwC83hgB658Cow4B4d8Ci5gB6nwCi5g
    B8vwCi5gB8ykCda5gB9ukCglgB8akCiqsB7rwCio4B7rwCj6sB8t8Cio4B8t8Ci5gB8akCj6sB798Cj6sB9bwChmsB9bw
    ChmsB8t8ChmsB9ukCh6sBat8CglgB9ukCglgBavwCglgB9ukChmsB9bwCj6sB7rwCi5gB8t8Cjc4B858ChmsB9bwCj6s
    B8akCh44B9bwCi5gB8t8Ci5gB9bwChmsB9bwChmsB9ukChmsB8t8Ci5gB8t8Ci5gB9bwChmsB9bwChmsB9bwChmsB9bw
    Cj6sB7rw | ; America/Cancun = -20824 -21600 -18000 -14400 |
    B.1ln15cwC192w8Brp0C9yocBf18CbxgDqykC8t8B684CbxgBfjwCbesBfjwCe04BavwCe04Bf18CbxgBf18CbxgBfjw
    CbesBfjwCbesBfjwCbesBfjwCbxgBf18CbxgBf18CbxgBfjwCbesBfjwCbesBfjwCbxgBf18CbxgBf18C79g | ;
    America/Caracas = -16064 -16060 -16200 -14400 | B.14xufr4C.bjfjzwD.rlo83wCw9myD6b40 | ;
    America/Cayenne = -12560 -14400 -10800 | B.1g5nedsC.tcw6r4 | ; America/Cayman = -19532 -18430
    -18000 | B.14xuifgC.biv5te | ; America/Chicago US/Central = -21036 -21600 -18000 |
    B.11quqowCpto8BfjwCbesBfjwCh44Bad8Caw4Bg2kCdhgBavwCg2sBbekCfk4BbekCfk4BbekCfk4BbekCfk4BbekCg2s
    BbekCfk4BbekCfk4BbekCfk4BbekCfk4BbekCg2sBavwCg2sBbekCfk4BbekCbesBj6kCbxgBbekCfk4BbekCg2sBavw
    Cg2sBbekCfk4BbekC9xgB2qfwCfk4BbekCfk4BbekCfk4BbekCfk4BbekCg2sBavwCg2sBbekCfk4BbekCfk4BbekCfk4
    BbekCfk4BdzwCdhgBdh8CdhgBdh8CdhgBdh8CdhgBdh8CdhgBdzwCdhgBdh8CdhgBdh8CdhgBdh8CdhgBdh8CdhgBdzw
    CcysBdzwCdhgBdh8CdhgBdh8CdhgBdh8CdhgBdh8CdhgBdzwCdhgBdh8CdhgBdh8C56sBlrwC8tgBi58CdhgBdzwCcys
    BdzwCdhgBdh8CdhgBdh8CdhgBdh8CdhgBdh8CdhgBdzwCcysBdzwCdhgBdh8CdhgBdh8CdhgBdh8CbxgBf18CbxgBfjw
    CbesBfjwCbesBfjwCbxgBf18CbxgBf18CbxgBfjwCbesBfjwCbesBfjwCbxgBf18CbxgBf18CbxgBf18CbxgBfjwCbes
    BfjwCbesBfjwCbxgBf18CbxgBf18CbxgBfjwCbesBfjwCbesBfjw | 2007 -21600 -18000 3 2 0 7200 11 1 0 7200
    ; America/Chihuahua = -25460 -25200 -21600 -18000 |
    B.1ln184wC4340B2kvwCcasBbekCdk4D1c404Cf18DbxgCf18BqysCbxgBfjwCbesBfjwCe04BavwCe04Bf18CbxgBf18
    CbxgBfjwCbesBfjwCbesBfjwCbesBfjwCbxgBf18CbxgBf18CbxgBfjwCbesBfjwCbesBfjwCbxgBf18CbxgBf18Cbxg
    Bf18CbxgBfjwCbesBfjwCbesBfjwCbxgBf18CbxgBf18CbxgBfjwCbes | ; America/Ciudad_Juarez = -25556
    -25200 -21600 -18000 |
    B.1ln184wC4340B2kvwCcasBbekCdk4D1c404Cf18DbxgCf18BqysCbxgBfjwCbesBfjwCe04BavwCe04Bf18CbxgBf18
    CbxgBfjwCbesBfjwCbesBfjwCbesBfjwCbxgBf18CbxgBf18CadgBhmkC9c4BhmkC9c4BhmkC9c4BhmkC9c4BhmkC9c4
    BhmkC9usBhmkC9c4BhmkC9c4BhmkC9c4BhmkC9c4BhmkC9usBhmkC9c4Bjec | 2023 -25200 -21600 3 2 0 7200 11
    1 0 7200 ; America/Costa_Rica = -20173 -21600 -18000 |
    B.1l4z499C.ubtl3nB798CjpgB798C7zpgBc2kCew4B47w | ; America/Coyhaique = -17296 -16965 -18000
    -14400 -10800 |
    B.14xugpcC.ag6l2tB.3dlssrD.157b79B.f4e0rD.49hzb9C.aye0rDbc4Cfp8Dbc4Cfp8Dbc4Cfp8Dbc4CfrwDbc4
    C7bp8D4isC3i7wD3s0Eg4g0DavwEhmsD9bwEeisDbekEfk4DbekEg2sDavwEf1gDbx8Eg2sDavwEg2sDbekEfk4Dbek
    Efk4DbekEg2sDavwEg2sDavwEg2sDbekEfk4DbekEfk4DbekEfk4DbekEg2sDavwEg2sDavwEg2sDdh8EdhgDbekEfk4
    DbekEg2sDavwEe04DcykEg2sDbekEfk4DbekEfk4DbekEfk4DbekEg2sDavwEg2sDcfwEeisDbekEeisDdzwEe04Dbek
    Eg2sDavwEg2sDavwEg2sDavwEg2sDbekEfk4DbekEfk4DbekEg2sDavwEg2sDcfwEeisDbekEfk4DcykEe04DfjwE7s4
    DinwE9c4DhmkE9usDh3wE9usD19mkE6qsDk7wE6qsDk7wE6qsDhmkEbesDfjwEbesDfjwEbesDfjwEbxgDf18EbesDg2k
    Ebes | ; America/Creston = -27964 -25200 -28800 | B.11t3floC.h39xv8B1944 | ; America/Cuiaba =
    -13460 -14400 -10800 |
    B.1hgpv2sC.99k9y4BddcCdpgBdbwCciysBa2oCgyoB8ykCi2sB918Ci2sB6nwC83hgB658Cow4B4d8Ci5gB6nwCi5g
    B8vwCi5gB8ykCda5gB9ukCglgB8akCiqsB7rwCio4B7rwCj6sB8t8Cio4B8t8Ci5gB8akCj6sB798Cj6sB9bwChmsB9bw
    ChmsB8t8ChmsB9ukCh6sBat8CglgB9ukCglgBavwCglgB9ukChmsB9bwCj6sB7rwC1aasB858ChmsB9bwCj6sB8akCh44
    B9bwCi5gB8t8Ci5gB9bwChmsB9bwChmsB9ukChmsB8t8Ci5gB8t8Ci5gB9bwChmsB9bwChmsB9bwChmsB9bwCj6sB7rw | ;
    America/Curacao America/Kralendijk America/Lower_Princes = -16547 -16200 -14400 |
    B.1gha04jC.rlo7qd | ; America/Danmarkshavn = -4480 -10800 -7200 0 |
    B.1it0k5cC.x8nx3kBcy8CdhcBdhcCdhcBdhcCdhcBdhcCdhcBe00CdhcBdhcCdhcBdhcCdhcBdhcCdhcBdhcCdhcBdhc
    CdhcBe00CdhcBdhcCdhcBdhcCdhcBdhcCdhcBdhcCdhcBdhcD7c8 | ; America/Dawson = -33460 -32400 -28800
    -25200 |
    B.1ahljucC.97l62kBeikCfk4BbucCgqocB2qfwDepekBe00C6080D4vs4Cdh8DdhgCdh8DdhgCdzwDcysCdzwDdhgCdh8
    DdhgCdh8DdhgCdh8DbxgCf18DbxgCfjwDbesCfjwDbesCfjwDbxgCf18DbxgCf18DbxgCfjwDbesCfjwDbesCfjwDbxg
    Cf18DbxgCf18DbxgCf18DbxgCfjwDbesCfjwDbesCfjwDbxgCf18DbxgCf18DbxgCfjwDbesCfjwDbesCfjwD9usChmk
    D9c4ChmkD9c4ChmkD9usChmkD9c4ChmkD9c4ChmkD9c4ChmkD9c4ChmkD9c4ChmkD9usChmkD9c4ChmkD9c4ChmkD9c4
    ChmkD9c4 | ; America/Dawson_Creek = -28856 -28800 -25200 |
    B.11t3gagC.hw36ugBeikChi2sB2qfwC16isBbekCfk4BbekCfk4BbekCg2sBavwCg2sBbekCfk4BbekCfk4BbekCfk4
    BbekCfk4BbekCg2sBbekCfk4BbekCfk4BbekCfk4BbekCfk4BbekCg2sBavwCg2sBdh8CdhgBdh8CdhgBdh8CdhgBdzw
    CcysBdzwCdhgBdh8CdhgBdh8CdhgBdh8CdhgBdh8CdhgBdzwCdhg | ; America/Denver America/Shiprock Navajo
    US/Mountain = -25196 -25200 -21600 |
    B.11qutgwCpto8BfjwCbesBfjwCbesBg2kCaw4B458CfklgB2qfwCepesBdzwCcysBdzwCdhgBdh8CdhgBdh8CdhgBdh8
    CdhgBdh8CdhgBdzwCdhgBdh8CdhgBdh8C56sBlrwC8tgBi58CdhgBdzwCcysBdzwCdhgBdh8CdhgBdh8CdhgBdh8Cdhg
    Bdh8CdhgBdzwCcysBdzwCdhgBdh8CdhgBdh8CdhgBdh8CbxgBf18CbxgBfjwCbesBfjwCbesBfjwCbxgBf18CbxgBf18
    CbxgBfjwCbesBfjwCbesBfjwCbxgBf18CbxgBf18CbxgBf18CbxgBfjwCbesBfjwCbesBfjwCbxgBf18CbxgBf18Cbxg
    BfjwCbesBfjwCbesBfjw | 2007 -25200 -21600 3 2 0 7200 11 1 0 7200 ; America/Detroit US/Michigan =
    -19931 -21600 -18000 -14400 |
    B.1crmyqjC.5eraudDk3h8C2qfwD1xhgCbekD.9rlbxoC.71s2cDdhgCdh8D3dusCdh8D56sClrwDdhgCdh8DdhgCdzw
    DcysCdzwDdhgCdh8DdhgCdh8DdhgCdh8DdhgCdh8DdhgCdzwDcysCdzwDdhgCdh8DdhgCdh8DdhgCdh8DbxgCf18Dbxg
    CfjwDbesCfjwDbesCfjwDbxgCf18DbxgCf18DbxgCfjwDbesCfjwDbesCfjwDbxgCf18DbxgCf18DbxgCf18DbxgCfjw
    DbesCfjwDbesCfjwDbxgCf18DbxgCf18DbxgCfjwDbesCfjwDbesCfjw | 2007 -18000 -14400 3 2 0 7200 11 1 0
    7200 ; America/Dominica = -14736 -14400 | B.1g5ng3w | ; America/Edmonton America/Yellowknife
    Canada/Mountain = -27232 -25200 -21600 |
    B.1dmx1pcC.629inkBeikCcg4B398CoqsBdzwCcysBbekCg2sBavwCg2sBbekCdstgB2qfwC16isBbekCih9gBdh8Cdhg
    Bdh8CdhgBdh8CdhgBdh8CdhgBdzwCcysBdzwCdhgBdh8CdhgBdh8CdhgBdh8CdhgBdh8CdhgBdzwCcysBdzwCdhgBdh8
    CdhgBdh8CdhgBdh8CbxgBf18CbxgBfjwCbesBfjwCbesBfjwCbxgBf18CbxgBf18CbxgBfjwCbesBfjwCbesBfjwCbxg
    Bf18CbxgBf18CbxgBf18CbxgBfjwCbesBfjwCbesBfjwCbxgBf18CbxgBf18CbxgBfjwCbesBfjwCbesBfjw | 2007
    -25200 -21600 3 2 0 7200 11 1 0 7200 ; America/Eirunepe = -16768 -18000 -14400 |
    B.1hgpxmoC.99ka68BddcCdpgBdbwCciysBa2oCgyoB8ykCi2sB918Ci2sB6nwC83hgB658Cow4B4d8Ci5gB6nwCi5g
    B8vwCi5gB8ykCda5gB9ukCglgB8akCiqsB7rwC4a04B9bwCas04B41jw | ; America/El_Salvador = -21408 -21600
    -18000 | B.1l497vkC.ymao5cBavwCg2sBavw | ; America/Ensenada America/Santa_Isabel America/Tijuana
    Mexico/BajaNorte = -28084 -25200 -28800 |
    B.1ln184wC1i2oB2l1gC2kvwBa5gCdh8B7xusC2od8B1slgCl18ByysCat8Bg30CbekBfk4CbekBfk0CbeoBfk0Cbeo
    Bfk0CbeoBg2oCbeoBfk0CbeoBfk0CbeoBfk0CbeoBfk0CbeoBg2oCaw0Bg2oCdhcBdhcCdhcBdhcCdhcBdhcCe00Bcyo
    Ce00BdhgCdh8BdhgCdh8BdhgCdh8BdhgCdh8BdhgCdzwBdhgCdh8BdhgCdh8B56sClrwB8tgCi58BdhgCdzwBcysCdzw
    BdhgCdh8BdhgCdh8BdhgCdh8BdhgCdh8BdhgCdzwBcysCdzwBdhgCdh8BdhgCdh8BdhgCdh8BbxgCf18BbxgCfjwBbes
    CfjwBbesCfjwBbxgCf18BbxgCf18BbxgCfjwBbesCfjwBbesCfjwBbxgCf18BbxgCf18BbxgCf18BbxgCfjwBbesCfjw
    BbesCfjwBbxgCf18BbxgCf18BbxgCfjwBbesCfjwBbesCfjwBbesCfjwBbxgCf18BbxgCf18 | 2010 -28800 -25200 3
    2 0 7200 11 1 0 7200 ; America/Fort_Nelson = -29447 -28800 -25200 |
    B.11t3gqvC.hw36e1BeikChi2sB2qfwC16isBbekCfk4BbekCfk4BbekCg2sBavwCg2sBbekCfk4BbekCfk4BbekCfk4
    BbekCfk4BbekCg2sBbekCfk4BbekCfk4BbekCfk4BbekCfk4BbekCg2sBavwCg2sBdh8CdhgBdh8CdhgBdh8CdhgBdzw
    CcysBdzwCdhgBdh8CdhgBdh8CdhgBdh8CdhgBdh8CdhgBdzwCdhgBdh8CdhgBdh8CdhgBdh8CdhgBdh8CdhgBdzwCcys
    BdzwCdhgBdh8CdhgBdh8CdhgBdh8CdhgBdh8CdhgBdzwCcysBdzwCdhgBdh8CdhgBdh8CdhgBdh8CbxgBf18CbxgBfjw
    CbesBfjwCbesBfjwCbxgBf18CbxgBf18CbxgBfjwCbesBfjwCbesBfjwCbxgBf18CbxgBf18CbxgBf18CbxgBfjwCbes
    BfjwCbesBfjwCbxgBf18CbxgBf18CbxgBfjwCbesBfjwCbesBfjwC9usBhmkC9c4BhmkC9c4BhmkC9usBhmkC9c4Bhmk
    C9c4BhmkC9c4BhmkC9c4BhmkC9c4 | ; America/Fort_Wayne America/Indiana/Indianapolis
    America/Indianapolis US/East-Indiana = -20678 -21600 -18000 -14400 |
    B.11quqowCpto8BfjwCbesBfjwCg9xgB798C9xgB2qfwCfk4BbekCfk4BbekCfk4BbekCfk4BbekCg2sBavwCg2sBbek
    Cfk4BbekCfk4BbekCfk4BbekCfk4B1tukCfk4D89mkCdh8DdhgCdh8DqmqsCfjw | 2007 -18000 -14400 3 2 0 7200
    11 1 0 7200 ; America/Fortaleza = -9240 -10800 -7200 |
    B.1hgprtkC.99kafcBddcCdpgBdbwCciysBa2oCgyoB8ykCi2sB918Ci2sB6nwC83hgB658Cow4B4d8Ci5gB6nwCi5g
    B8vwCi5gB8ykCda5gB9ukCglgB8akCiqsB7rwCio4B7rwCj6sB8t8C78tgBavwCglgB118Cqg4B9bw | ;
    America/Glace_Bay = -14388 -14400 -10800 |
    B.1bfqrskC.89fk8cBeikChi2sB2qfwC5otgBbekCdyysBdh8CdhgBdh8CdhgBdh8CdhgBdh8CdhgBdzwCcysBdzwCdhg
    Bdh8CdhgBdh8CdhgBdh8CdhgBdh8CdhgBdzwCcysBdzwCdhgBdh8CdhgBdh8CdhgBdh8CbxgBf18CbxgBfjwCbesBfjw
    CbesBfjwCbxgBf18CbxgBf18CbxgBfjwCbesBfjwCbesBfjwCbxgBf18CbxgBf18CbxgBf18CbxgBfjwCbesBfjwCbes
    BfjwCbxgBf18CbxgBf18CbxgBfjwCbesBfjwCbesBfjw | 2007 -14400 -10800 3 2 0 7200 11 1 0 7200 ;
    America/Godthab America/Nuuk = -12416 -10800 -7200 |
    B.1it0q9sC.x8nqz4Bcy8CdhcBdhcCdhcBdhcCdhcBdhcCdhcBe00CdhcBdhcCdhcBdhcCdhcBdhcCdhcBdhcCdhcBdhc
    CdhcBe00CdhcBdhcCdhcBdhcCdhcBdhcCdhcBdhcCdhcBdhcCe00Bfk0CbeoBfk0CbeoBfk0CbeoBg2oCaw0Bg2oCaw0
    Bg2oCbeoBfk0CbeoBfk0CbeoBg2oCaw0Bg2oCaw0Bg2oCaw0Bg2oCbeoBfk0CbeoBfk0CbeoBg2oCaw0Bg2oCaw0Bg2o
    CbeoBfk0CbeoBfk0CbeoBfk0CbeoBg2oCaw0Bg2oCaw0Bg2oCbeoBfk0CbeoBfk0CbeoBg2oCaw0Bg2oCaw0 | 2024
    -7200 -3600 3 5 0 -3600 10 5 0 0 ; America/Goose_Bay = -14500 -12652 -9052 -12600 -9000 -14400
    -10800 -7200 |
    B.11t357oC.hw35goBeikDccakE.kzjykDavwEg2sDavwEg2sDavwEglgDad8EglgDavwEg2sDavwEg2sD2jpgEglgDavw
    Eg2sDavwEg2sDavwEg2sDavwEglgDavwEf1gDbekEfk4DbekEfk4DbekEfk4DbekEfk4DbekEg2sDbekEfk4DbekEfk4
    DbekEfk4DbekEfk4DdzwEdhgDdh8EdhgDdh8EdhgDdh8EdhgDdh8EdhgDdzwFa04G2yqFdzwGdhgFdh8GdhgFdh8Gdhg
    Fdh8GdhgFdh8GdhgFdzwGdhgFdh8GdhgFdh8GdhgFdh8GdhgFdh8GdhgFdzwGcysFdzwGdhgFdh8GdhgFdh8GdhgFdh8
    GdhgFdh8GdhgFdzwGcysFdzwGdhgFdh8GdhgFdh8GdhgFdh8G.8a2loFf18HbxgFfjsGbewFfjwGbesFfjwGbxgFf18
    GbxgFf18GbxgFfjwGbesFfjwGbesFfjwGbxgFf18GbxgFf18GbxgFf18GbxgFfjwGbesFfjwGbesFfjwGbxgFf18Gbxg
    Ff18GbxgFfjwGbesFfjwGbesFfjwG9usFhmkG9c4FhmkG9c4FhmkG9usFhmkG9c4F.c8tec | 2012 -14400 -10800 3 2
    0 7200 11 1 0 7200 ; America/Grand_Turk = -17072 -18430 -18000 -14400 |
    B.14xugj4C.biv7pqD.z3brw2Cdh8DdhgCdh8DdhgCdh8DdhgCdzwDcysCdzwDdhgCdh8DdhgCdh8DdhgCdh8DbxgCf18
    DbxgCfjwDbesCfjwDbesCfjwDbxgCf18DbxgCf18DbxgCfjwDbesCfjwDbesCfjwDbxgCf18DbxgCf18DbxgCf18Dbxg
    CfjwDbesCfjwDbesCfjwDbxgCf18DbxgCf18DbxgCfjwDbesCfjwDbesCfjwD9usChmkD9c4ChmkD9c4ChmkD9usChmk
    D9c4ChmkD9c4ChmkD9c4ChmkD9c4ChmkD9c4C2r18 | 2019 -18000 -14400 3 2 0 7200 11 1 0 7200 ;
    America/Grenada = -14820 -14400 | B.1g5ng4k | ; America/Guadeloupe = -14768 -14400 | B.1g4gur4 |
    ; America/Guatemala = -21724 -21600 -18000 | B.1jy4k4cC.ss0akkB6qkC6xusB96kC5mw4BcfwCb084Bbek |
    ; America/Guayaquil = -19160 -18840 -18000 -14400 | B.14xui54C.le9mf4D.wb620oC53w | ;
    America/Guyana = -13959 -14400 -13500 -10800 | B.1g78u4nC.1va8c9D19enzBciqp | ; America/Halifax
    Canada/Atlantic = -15264 -14400 -10800 |
    B.1bfqsgwC.777go0BdjwC15hoBeikC15h8B8akCiisB918Chk4B9h8Ci04B8ykCi04B9x8Ch1gBaykCh1gB8vwCh1g
    BaykCh1gB8t8Ci5gB8fwCiisB9ekChk4BafwCg04BaykCg04Bbh8Ch1gB8t8Cj6sB8vwCi5gB7rwCh1gBaykCg04Bayk
    Ci2sB8vwCgisBaykCg04BaykC9v0B2qfwCfk4BbekCfk4BbekCfk4BbekCfk4BbekC171gBbekCfk4BbekCfk4BbekCfk4
    BbekC171gBbekCfk4BbekCfk4BbekCfk4BbekC1y04Bdh8CdhgBdh8CdhgBdh8CdhgBdzwCcysBdzwCdhgBdh8CdhgBdh8
    CdhgBdh8CdhgBdh8CdhgBdzwCdhgBdh8CdhgBdh8CdhgBdh8CdhgBdh8CdhgBdzwCcysBdzwCdhgBdh8CdhgBdh8Cdhg
    Bdh8CdhgBdh8CdhgBdzwCcysBdzwCdhgBdh8CdhgBdh8CdhgBdh8CbxgBf18CbxgBfjwCbesBfjwCbesBfjwCbxgBf18
    CbxgBf18CbxgBfjwCbesBfjwCbesBfjwCbxgBf18CbxgBf18CbxgBf18CbxgBfjwCbesBfjwCbesBfjwCbxgBf18Cbxg
    Bf18CbxgBfjwCbesBfjwCbesBfjw | 2007 -14400 -10800 3 2 0 7200 11 1 0 7200 ; America/Havana Cuba =
    -19768 -19776 -18000 -14400 |
    B.14xuim0C.ijto08D.1icfyoC918D8r1gC6qkDk84C798Dk84C6qkD225gC6qkDk84C6qkDe39gC8ykDhusC9bwDdxg
    Cbh8Dg2sCavwDh44Cdh8DdhgCdh8DdhgCdzwDdhgCbx8Df1gCbzwDeysCc2kDew4Cdh8DdhgCdzwDcysCdzwDe04Cbek
    DbxgCfjwDbesCfjwDfk4CbekDfk4CbekDfk4CbekDfk4Cbx8Df1gCbx8DbesCfjwDbesCfjwDbxgCf18DbxgCf18Dcys
    CeikDcysCe00DcyoCe00DcyoCe00DcyoCe00DcyoCe00DdhcCdhcDdhcCe00Dcg0Cfk0DbeoCg2oDbeoCfk0DbeoCfk0
    DbxcCf1cDbxcCf1cDbeoC1y00D9uoCh40DadcCglcD9uoCh40DadcCh40DadcChmoDadcCg2o | 2013 -18000 -14400 3
    2 0 0 11 1 0 3600 ; America/Hermosillo = -26632 -25200 -21600 |
    B.1ln184wC4340B2kvwCcasBbekCdk4B7k7wC14jscBf18CbxgBf18CbxgBf18 | ; America/Indiana/Knox
    America/Knox_IN US/Indiana-Starke = -20790 -21600 -18000 |
    B.11quqowCpto8BfjwCbesBfjwCgr44B2qfwC16isBbekCfk4BbekCfk4BbekCg2sBavwCg2sBbekCfk4BbekCfk4Bbek
    Cfk4BbekCfk4BdzwCdhgBdh8CdhgBbekCfk4BbekCfk4Bdh8CdhgBdzwCdhgBdh8CdhgB14fwC2mw4Bdh8CdhgBdh8Cdhg
    Bdh8CdhgBdh8CdhgBdzwCdhgBdh8CdhgBdh8C56sBlrwC8tgBi58CdhgBdzwCcysBdzwCdhgBdh8CdhgBdh8CdhgBdh8
    CdhgBdh8CdhgBdzwCcysBdzwCdhgBdh8CdhgBdh8CdhgBdh8CbxgBf18CbxgBfjwCbesBfjwCbesBfjwCbxgBbp18 | 2007
    -21600 -18000 3 2 0 7200 11 1 0 7200 ; America/Indiana/Marengo = -20723 -21600 -18000 -14400 |
    B.11quqowCpto8BfjwCbesBfjwCgr44B2qfwC46w4BbekC1xhgBbekCfk4BbekCg2sBbekCfk4BbekCfk4BbekCfk4Bbek
    Cfk4BbekCg2sD607wCdh8DdhgCdh8DdhgCdzwDdhgCdh8DdhgCdh8Dzs4Ci58DmvesCfjw | 2007 -18000 -14400 3 2
    0 7200 11 1 0 7200 ; America/Indiana/Petersburg = -20947 -21600 -18000 |
    B.11quqowCpto8BfjwCbesBfjwCgr44B2qfwC7798Baw4Cg2sBbekCfk4BbekCfk4BbekCfk4BbekCfk4BbekCg2sBdh8
    CdhgBdh8CdhgBdh8CdhgBdh8CdhgB14ykCdhgBdh8CdhgBdh8CdhgBdh8CdhgBdh8CdhgBdzwCdhgBdh8CdhgBdh8C56s
    BlrwC8tgBi58CdhgBdzwCcysBm6ikC9us | 2008 -18000 -14400 3 2 0 7200 11 1 0 7200 ;
    America/Indiana/Tell_City = -20823 -21600 -18000 -14400 |
    B.11quqowCpto8BfjwCbesBfjwCgr44B2qfwC7798Baw4Cg2sBbekCfk4BbekCfk4BbekCfk4BbekCfk4BbekCg2sBdh8
    CdhgBdh8CdhgBdh8CdhgB2mvwCdhgBdh8DdhgCdh4DdhgCdh8Br2as | 2007 -21600 -18000 3 2 0 7200 11 1 0
    7200 ; America/Indiana/Vevay = -20416 -21600 -18000 -14400 |
    B.11quqowCpto8BfjwCbesBfjwCgr44B2qfwC6fs4Db9zwCdh8DdhgCdh8DdhgCdzwDdhgCdh8Dp4asCfjw | 2007
    -18000 -14400 3 2 0 7200 11 1 0 7200 ; America/Indiana/Vincennes = -21007 -21600 -18000 -14400 |
    B.11quqowCpto8BfjwCbesBfjwCgr44B2qfwCfk4BbekC4xusBbekCfk4BbekCg2kBaw4Cg2sBbekCfk4BbekCfk4Bbek
    Cfk4BbekCfk4BdzwCdhgBavwCg2sBdh8CdhgBdh8CdhgD3rbwCdh8DdhgCdh8Br2asC9us | 2008 -18000 -14400 3 2
    0 7200 11 1 0 7200 ; America/Indiana/Winamac = -20785 -21600 -18000 -14400 |
    B.11quqowCpto8BfjwCbesBfjwCgr44B2qfwCfk4BbekCfk4BbekCfk4BbekCfk4BbekCg2sBavwCg2sBbekCfk4Bbek
    Cfk4BbekCfk4BbekCfk4BdzwCdhgBdh8CdhgBbekCfk4BbekCfk4BbekCfk4BbekCg2sD607wCdh8DdhgCdh8Br2asD9us
    Chmg | 2008 -18000 -14400 3 2 0 7200 11 1 0 7200 ; America/Inuvik = 0 -28800 -25200 -21600 |
    B.21th7cwCeix4Bdh8CdhgBdh8CdhgBdh8CdhgBdh8CdhgBdzwCcysBdzwCdhgBdh8DdhgCdh4DdhgCdh8DdhgCdh8Ddhg
    CdzwDcysCdzwDdhgCdh8DdhgCdh8DdhgCdh8DbxgCf18DbxgCfjwDbesCfjwDbesCfjwDbxgCf18DbxgCf18DbxgCfjw
    DbesCfjwDbesCfjwDbxgCf18DbxgCf18DbxgCf18DbxgCfjwDbesCfjwDbesCfjwDbxgCf18DbxgCf18DbxgCfjwDbes
    CfjwDbesCfjw | 2007 -25200 -21600 3 2 0 7200 11 1 0 7200 ; America/Iqaluit America/Pangnirtung =
    0 -14400 -18000 -21600 |
    B.1wdp20wC2dncBjz6sCdh8BdhgCdh8BdhgCdh8BdhgCdh8BdhgCdzwBcysCdzwBdhgCdh8BdhgCdh8BdhgCdh8Bdhg
    Cdh8BdhgCdzwBcysCdzwBdhgCdh8BdhgCdh8BdhgCdh8BbxgCf18BbxgCfjwBbesCfjwBbesCfjwBbxgCf18BbxgCf18
    BbxgCfjwBbesCfjwBbesCfjwBbxgCf18BbxgCf18BbxgCf18BbxgDfjwCbewBqykCfjwBbxgCf18BbxgCf18BbxgCfjw
    BbesCfjwBbesCfjw | 2007 -18000 -14400 3 2 0 7200 11 1 0 7200 ; America/Jamaica Jamaica = -18430
    -18000 -14400 |
    B.1ggpo8uC.wbl182BlrwC8tgBi58CdhgBdzwCcysBdzwCdhgBdh8CdhgBdh8CdhgBdh8CdhgBdh8CdhgBdzwCcysBdzw |
    ; America/Juneau = 54139 -32261 -28800 -25200 -32400 |
    B.tcnm4xC.h4yu44D.ln707vC2qfwDhps4Cdh8DdhgCdh8DdhgCdzwDdhgCdh8DdhgCdh8D56sClrwD8tgCi58DdhgCdzw
    DcysCdzwDdhgCdh8DdhgCdh8D14g4Cdh8DdhgCdzwDcysEdzwCdhkEdh8CdhgEdh8CdhgEdh8CbxgEf18CbxgEfjwCbes
    EfjwCbesEfjwCbxgEf18CbxgEf18CbxgEfjwCbesEfjwCbesEfjwCbxgEf18CbxgEf18CbxgEf18CbxgEfjwCbesEfjw
    CbesEfjwCbxgEf18CbxgEf18CbxgEfjwCbesEfjwCbesEfjw | 2007 -32400 -28800 3 2 0 7200 11 1 0 7200 ;
    America/Kentucky/Louisville America/Louisville = -20582 -21600 -18000 -14400 |
    B.11quqowCpto8BfjwCbesBfjwC14ysB93wCerpgBbekC9xgB2qfwC.ast9oB.1sw2cC2xs4BavwCg2sBbekCfk4Bbek
    Cfk4BbekCfk4BbekCfk4BbekCg2sBdh8CdhgBdh8CdhgBdh8CdhgBdh8CdhgBdzwCdhgD5998Cdh8DdhgCdh8DdhgCdh8
    DdhgCdzwDdhgCdh8DdhgCdh8Dzs4Ci58DdhgCdzwDcysCdzwDdhgCdh8DdhgCdh8DdhgCdh8DdhgCdh8DdhgCdzwDcys
    CdzwDdhgCdh8DdhgCdh8DdhgCdh8DbxgCf18DbxgCfjwDbesCfjwDbesCfjwDbxgCf18DbxgCf18DbxgCfjwDbesCfjw
    DbesCfjwDbxgCf18DbxgCf18DbxgCf18DbxgCfjwDbesCfjwDbesCfjwDbxgCf18DbxgCf18DbxgCfjwDbesCfjwDbes
    Cfjw | 2007 -18000 -14400 3 2 0 7200 11 1 0 7200 ; America/Kentucky/Monticello = -20364 -21600
    -18000 -14400 |
    B.11quqowCpto8BfjwCbesBfjwCgr44B2qfwCgytgBdh8CdhgBdh8CdhgBdh8CdhgBdzwCdhgBdh8CdhgBdh8C56sBlrw
    C8tgBi58CdhgBdzwCcysBdzwCdhgBdh8CdhgBdh8CdhgBdh8CdhgBdh8CdhgBdzwCcysBdzwCdhgBdh8CdhgBdh8Cdhg
    Bdh8CbxgBf18CbxgBfjwCbesBfjwCbesBfjwCbxgBf18CbxgBf18CbxgBfjwCbesBfjwCbesBfjwCbxgBf18CbxgBf18
    CbxgBf18CbxgBfjwCbesDqykCfjwDbxgCf18DbxgCf18DbxgCfjwDbesCfjwDbesCfjw | 2007 -18000 -14400 3 2 0
    7200 11 1 0 7200 ; America/La_Paz = -16356 -12756 -14400 | B.1qqvjz8Cbp8 | ; America/Lima =
    -18492 -18516 -18000 -14400 |
    B.14xuhmkC.9ov9coD.fcxjloC6nwDd44Cdh8DdhgCdh8Dyeg4C6nwDkdgC6nwD22isC6nwD2tk4C6nw | ;
    America/Los_Angeles US/Pacific = -28378 -28800 -25200 |
    B.11quw8wCpto8BfjwCbesBfjwCgr44B2qfwC.1a3c5oB.f2iicCzuoBaw0Cg2oBbeoCfk0BbeoCfk0BbeoCfk0Bbeo
    Cfk0BbeoCg2oBbeoCfk0BbeoCfk0BbeoCfk0BbeoCfk0BbeoCg2oBaw0Cg2oBdhcCdhcBdhcCdhcBdhcCdhcBe00Ccyo
    Be00CdhgBdh8CdhgBdh8CdhgBdh8CdhgBdh8CdhgBdzwCdhgBdh8CdhgBdh8C56sBlrwC8tgBi58CdhgBdzwCcysBdzw
    CdhgBdh8CdhgBdh8CdhgBdh8CdhgBdh8CdhgBdzwCcysBdzwCdhgBdh8CdhgBdh8CdhgBdh8CbxgBf18CbxgBfjwCbes
    BfjwCbesBfjwCbxgBf18CbxgBf18CbxgBfjwCbesBfjwCbesBfjwCbxgBf18CbxgBf18CbxgBf18CbxgBfjwCbesBfjw
    CbesBfjwCbxgBf18CbxgBf18CbxgBfjwCbesBfjwCbesBfjw | 2007 -28800 -25200 3 2 0 7200 11 1 0 7200 ;
    America/Maceio = -8572 -10800 -7200 |
    B.1hgprb0C.99kaxwBddcCdpgBdbwCciysBa2oCgyoB8ykCi2sB918Ci2sB6nwC83hgB658Cow4B4d8Ci5gB6nwCi5g
    B8vwCi5gB8ykCda5gB9ukCglgB8akCiqsB7rwCio4B7rwCj6sB8t8C49hgB8t8C2qisBavwCglgB118Cqg4B9bw | ;
    America/Managua = -20708 -20712 -21600 -18000 |
    B.14xujc4C.n7jmo4D.ka1i0oC1cl8D32g4C7bwDjmsC7bwD8nskCjrgD7c4C307wD67s4CcykDfkcCbeg | ;
    America/Manaus Brazil/West = -14404 -14400 -10800 |
    B.1hgpvt0C.99k97wBddcCdpgBdbwCciysBa2oCgyoB8ykCi2sB918Ci2sB6nwC83hgB658Cow4B4d8Ci5gB6nwCi5g
    B8vwCi5gB8ykCda5gB9ukCglgB8akCiqsB7rwC4a04B9bw | ; America/Marigot America/Port_of_Spain
    America/St_Barthelemy = -14764 -14400 | B.1gi95f0 | ; America/Martinique = -14660 -14400 -10800
    | B.1g2ihc4C.zz5x4sBcyk | ; America/Matamoros = -23400 -21600 -18000 |
    B.1ln15cwC1dsiwBfjwC5l6sBf18CbxgBf18CbxgBf18CbxgBfjwCbesBfjwCe04BavwCe04Bf18CbxgBf18CbxgBfjw
    CbesBfjwCbesBfjwCbesBfjwCbxgBf18CbxgBf18 | 2010 -21600 -18000 3 2 0 7200 11 1 0 7200 ;
    America/Mazatlan Mexico/BajaSur = -25540 -25200 -21600 |
    B.1ln184wC4340B2kvwCcasBbekCdk4B7k7wC14jscBf18CbxgBf18CbxgBf18CbxgBfjwCbesBfjwCe04BavwCe04Bf18
    CbxgBf18CbxgBfjwCbesBfjwCbesBfjwCbesBfjwCbxgBf18CbxgBf18CbxgBfjwCbesBfjwCbesBfjwCbxgBf18Cbxg
    Bf18CbxgBf18CbxgBfjwCbesBfjwCbesBfjwCbxgBf18CbxgBf18CbxgBfjwCbesBfjw | ; America/Menominee =
    -21027 -21600 -18000 |
    B.12pbgwzC.gz53bxBfjwCbesBfjwCgr44B2qfwCfk4BbekCepesBdzwC1vesB3dukC56sBlrwC8tgBi58CdhgBdzwCcys
    BdzwCdhgBdh8CdhgBdh8CdhgBdh8CdhgBdh8CdhgBdzwCcysBdzwCdhgBdh8CdhgBdh8CdhgBdh8CbxgBf18CbxgBfjw
    CbesBfjwCbesBfjwCbxgBf18CbxgBf18CbxgBfjwCbesBfjwCbesBfjwCbxgBf18CbxgBf18CbxgBf18CbxgBfjwCbes
    BfjwCbesBfjwCbxgBf18CbxgBf18CbxgBfjwCbesBfjwCbesBfjw | 2007 -21600 -18000 3 2 0 7200 11 1 0 7200
    ; America/Merida = -21508 -21600 -18000 |
    B.1ln15cwC192w8Bn18Ca3c4Bf18CbxgBf18CbxgBf18CbxgBfjwCbesBfjwCe04BavwCe04Bf18CbxgBf18CbxgBfjw
    CbesBfjwCbesBfjwCbesBfjwCbxgBf18CbxgBf18CbxgBfjwCbesBfjwCbesBfjwCbxgBf18CbxgBf18CbxgBf18Cbxg
    BfjwCbesBfjwCbesBfjwCbxgBf18CbxgBf18CbxgBfjwCbesBfjw | ; America/Metlakatla = 54822 -31578
    -28800 -25200 -32400 |
    B.tcnm4xC.h4ytl5D.ln70quC2qfwDhps4Cdh8DdhgCdh8DdhgCdzwDdhgCdh8DdhgCdh8D56sClrwD8tgCi58DdhgCdzw
    DcysCdzwDdhgCdh8DdhgCdh8DdhgCdh8DdhgCdh8DdhgCdzwDcysCdzwEo1xgC9usEhmkC9c4EhmkC9c4Enbw | 2019
    -32400 -28800 3 2 0 7200 11 1 0 7200 ; America/Mexico_City Mexico/General = -23796 -25200 -21600
    -18000 |
    B.1ln184wC4340B2kvwCcasBbekCdk4D5598Cad8D13hgC8d8D219gCa58D4cisCcfwDyc5oCf18DbxgCf18DbxgCf18
    DbxgCfjwDbesCfjwDe04CavwDe04Cf18DbxgCf18DbxgCfjwDbesCfjwDbesCfjwDbesCfjwDbxgCf18DbxgCf18Dbxg
    CfjwDbesCfjwDbesCfjwDbxgCf18DbxgCf18DbxgCf18DbxgCfjwDbesCfjwDbesCfjwDbxgCf18DbxgCf18DbxgCfjw
    DbesCfjw | ; America/Miquelon = -13480 -14400 -10800 -7200 |
    B.1g4tsfcC.zy4wpkD57esCf18DbxgCfjwDbesCfjwDbesCfjwDbxgCf18DbxgCf18DbxgCfjwDbesCfjwDbesCfjwDbxg
    Cf18DbxgCf18DbxgCf18DbxgCfjwDbesCfjwDbesCfjwDbxgCf18DbxgCf18DbxgCfjwDbesCfjwDbesCfjw | 2007
    -10800 -7200 3 2 0 7200 11 1 0 7200 ; America/Moncton = -15548 -18000 -14400 -10800 |
    B.11rwkosC.9nu9w4DbwasCeikDazmoC6qkDk84C6qkDk84C6qkDk84C6qkDk84C6qkDk84C6qkDjmsC8t8DhpgC998
    Dgo4Cat8Da08C2qfwDfk4CbekDfk4CbekDfk4CbekDfk4CbekDg2sCavwDg2sCbekDfk4CbekDfk4CbekDfk4CbekDfk4
    CbekDg2sCbekDfk4Cdh8DdhgCdh8DdhgCdh8DdhgCdzwDdhgCdh8DdhgCdh8DdhgCdh8DdhgCdh8DdhgCdzwDcysCdzw
    DdhgCdh8DdhgCdh8DdhgCdh8DdhgCdh8DdhgCdzwDdhgCdh8D14g4Cdh8DdhgCdh8DdhgCdzwDcysCdzwDdhgCdh8Ddhg
    Cdh8DdhgCdh8DdhgCdh8DdhgCdzwDcysCdzwDdhgCdh8DdhgCdh8DdhgCdh8DbxgCf18DbxgCfjwDbesCfjwDbesCfjw
    DbxgCf18DbxgCf18D.8a2loCfjwDbesCfjwDbesCfjwDbxgCf18DbxgCf18DbxgCf18DbxgCfjwDbesCfjwDbesCfjw
    DbxgCf18DbxgCf18DbxgCfjwDbesCfjwDbesCfjw | 2007 -14400 -10800 3 2 0 7200 11 1 0 7200 ;
    America/Monterrey = -24076 -25200 -21600 -18000 |
    B.1ln15cwC4344B2kvwCcasBbekCdk4D1639gCfjwD5l6sCf18DbxgCf18DbxgCf18DbxgCfjwDbesCfjwDe04CavwDe04
    Cf18DbxgCf18DbxgCfjwDbesCfjwDbesCfjwDbesCfjwDbxgCf18DbxgCf18DbxgCfjwDbesCfjwDbesCfjwDbxgCf18
    DbxgCf18DbxgCf18DbxgCfjwDbesCfjwDbesCfjwDbxgCf18DbxgCf18DbxgCfjwDbesCfjw | ; America/Montevideo
    = -13491 -14400 -10800 -12600 -9000 -7200 -5400 |
    B.1krncfnC.1s74p9DdjwCdk2DdhaCdk2DdhaC5p1eDbemCfk2DbemCfk2DbemCfk2DbemCg2qDavyCg2qDavyCe02Ddha
    Cfk2DbemC96qE111aC6nyEc65eCcymF4o2C3mkF3tesCcykE205gCdxaF11s2C3p8F1easC67wG14g4E456CcysF8aq
    C798F1ao4C5p8Fk84C6qkFl9gC5p8F45gCnukF5tk4C5mkFl9gC67wFhmsC8t8FhmsC9ukFhmsC9bwFh44C9ukF8oo4
    Ce04FeisCbekFf1gCbx8Ffk4CbekFfk4CbekFfk4Cbx8Ff1gCbx8Ff1gCbx8Ffk4CbekFfk4CbekFfk4Cbek | ;
    America/Montreal America/Nipigon America/Thunder_Bay America/Toronto Canada/Eastern = -19052
    -18000 -14400 |
    B.17jrze4C.c5efesBeikCbh6BfhaCe0cBavoCh4cB93wChusB9bwChmsB9bwCh44Bad8CglgBad8CglgBad8CglgBavw
    Cg2sBbekCfk4BbekCfk4BbekCfk4BbekCg2sBavwCg2sBbekCfk4BbekCfk4BbekCfk4BbekCfk4BbekCfk4BbekCg2s
    BavwCg2sB42qkCfk4BbekCfk4BbekCfk4BbekCfk4Bg2kCbesBfjwCbesBbekCfk4BbekCfk4BbekCfk4BbekCfk4Bbek
    Cg2sBbekCfk4Bdh8CdhgBdh8CdhgBdh8CdhgBdzwCdhgBdh8CdhgBdh8CdhgBdh8CdhgBdh8CdhgBdzwCcysBdzwCdhg
    Bdh8CdhgBdh8CdhgBdh8CdhgBdh8CdhgBdzwCdhgBdh8CdhgBdh8CdhgBdh8CdhgBdh8CdhgBdzwCcysBdzwCdhgBdh8
    CdhgBdh8CdhgBdh8CdhgBdh8CdhgBdzwCcysBdzwCdhgBdh8CdhgBdh8CdhgBdh8CbxgBf18CbxgBfjwCbesBfjwCbes
    BfjwCbxgBf18CbxgBf18CbxgBfjwCbesBfjwCbesBfjwCbxgBf18CbxgBf18CbxgBf18CbxgBfjwCbesBfjwCbesBfjw
    CbxgBf18CbxgBf18CbxgBfjwCbesBfjwCbesBfjw | 2007 -18000 -14400 3 2 0 7200 11 1 0 7200 ;
    America/Montserrat = -14932 -14400 | B.1g5ng9c | ; America/Nassau = -18570 -18000 -14400 |
    B.1gi98cqC.fqrow6B207wC2asBj6kCdx4cBdh8CdhgBdzwCcysBdzwCdhgBdh8CdhgBdh8CdhgBdh8CdhgBdh8Cdhg
    BdzwCdhgBdh8CdhgBdh8CdhgBdh8CdhgBdh8CdhgBdzwCcysBdzwCdhgBdh8CdhgBdh8CdhgBdh8CdhgBdh8CdhgBdzw
    CcysBdzwCdhgBdh8CdhgBdh8CdhgBdh8CbxgBf18CbxgBfjwCbesBfjwCbesBfjwCbxgBf18CbxgBf18CbxgBfjwCbes
    BfjwCbesBfjwCbxgBf18CbxgBf18CbxgBf18CbxgBfjwCbesBfjwCbesBfjwCbxgBf18CbxgBf18CbxgBfjwCbesBfjw
    CbesBfjw | 2007 -18000 -14400 3 2 0 7200 11 1 0 7200 ; America/New_York US/Eastern = -17762
    -18000 -14400 |
    B.11qunwwCpto8BfjwCbesBfjwCbesBg2kCcysBbekCg2sBavwCg2sBbekCfk4BbekCfk4BbekCfk4BbekCfk4BbekCg2s
    BbekCfk4BbekCfk4BbekCfk4BbekCfk4BbekCg2sBavwCg2sBbekCfk4BbekCfk4BbekCfk4BbekCfk4BbekCg2sBavw
    Cg2sBbekCfk4BbekC9xgB2qfwCfk4BbekCfk4BbekCfk4BbekCfk4BbekCg2sBavwCg2sBbekCfk4BbekCfk4BbekCfk4
    BbekCfk4BdzwCdhgBdh8CdhgBdh8CdhgBdh8CdhgBdh8CdhgBdzwCdhgBdh8CdhgBdh8CdhgBdh8CdhgBdh8CdhgBdzw
    CcysBdzwCdhgBdh8CdhgBdh8CdhgBdh8CdhgBdh8CdhgBdzwCdhgBdh8CdhgBdh8C56sBlrwC8tgBi58CdhgBdzwCcys
    BdzwCdhgBdh8CdhgBdh8CdhgBdh8CdhgBdh8CdhgBdzwCcysBdzwCdhgBdh8CdhgBdh8CdhgBdh8CbxgBf18CbxgBfjw
    CbesBfjwCbesBfjwCbxgBf18CbxgBf18CbxgBfjwCbesBfjwCbesBfjwCbxgBf18CbxgBf18CbxgBf18CbxgBfjwCbes
    BfjwCbesBfjwCbxgBf18CbxgBf18CbxgBfjwCbesBfjwCbesBfjw | 2007 -18000 -14400 3 2 0 7200 11 1 0 7200
    ; America/Nome = 46702 -39698 -39600 -36000 -32400 -28800 |
    B.tcnm4xC.h4yzupD.ln72taC2qfwDhps4Cdh8DdhgCdh8DdhgCdzwDdhgCdh8DdhgCdh8D56sClrwD8tgCi58DdhgCdzw
    DcysCdzwDdhgCdh8DdhgCdh8DdhgCdh8DdhgCdh8DdhgCdzwDcysEdzwFdh8Edh8FdhgEdh8FdhgEdh8FbxgEf18Fbxg
    EfjwFbesEfjwFbesEfjwFbxgEf18FbxgEf18FbxgEfjwFbesEfjwFbesEfjwFbxgEf18FbxgEf18FbxgEf18FbxgEfjw
    FbesEfjwFbesEfjwFbxgEf18FbxgEf18FbxgEfjwFbesEfjwFbesEfjw | 2007 -32400 -28800 3 2 0 7200 11 1 0
    7200 ; America/Noronha Brazil/DeNoronha = -7780 -7200 -3600 |
    B.1hgpqp0C.99k8rwBddcCdpgBdbwCciysBa2oCgyoB8ykCi2sB918Ci2sB6nwC83hgB658Cow4B4d8Ci5gB6nwCi5g
    B8vwCi5gB8ykCda5gB9ukCglgB8akCiqsB7rwCio4B7rwCj6sB8t8C78tgBavwCglgBikCqysB9bw | ;
    America/North_Dakota/Beulah = -24427 -25200 -21600 |
    B.11qutgwCpto8BfjwCbesBfjwCgr44B2qfwCg7usBdh8CdhgBdh8CdhgBdh8CdhgBdh8CdhgBdzwCdhgBdh8CdhgBdh8
    C56sBlrwC8tgBi58CdhgBdzwCcysBdzwCdhgBdh8CdhgBdh8CdhgBdh8CdhgBdh8CdhgBdzwCcysBdzwCdhgBdh8Cdhg
    Bdh8CdhgBdh8CbxgBf18CbxgBfjwCbesBfjwCbesBfjwCbxgBf18CbxgBf18CbxgBfjwCbesBfjwCbesBfjwCbxgBf18
    CbxgBf18CbxgBf18CbxgBfjwCbesBfjwCbesBfjwCbxgBf18CbxgBf18CbxgBfjwCbesBfjwCbesBfjwC9usBhmkC9c4
    BhmkC9c4BhmkC9us | 2011 -21600 -18000 3 2 0 7200 11 1 0 7200 ; America/North_Dakota/Center =
    -24312 -25200 -21600 -18000 |
    B.11qutgwCpto8BfjwCbesBfjwCgr44B2qfwCg7usBdh8CdhgBdh8CdhgBdh8CdhgBdh8CdhgBdzwCdhgBdh8CdhgBdh8
    C56sBlrwC8tgBi58CdhgBdzwCcysBdzwCdhgBdh8CdhgBdh8CdhgBdh8CdhgBdh8CdhgBdzwCcysBdzwCdhgBdh8Cdhg
    Bdh8CdhgBdh8CbxgBf18CbxgBfjwCbesBfjwCbesBfjwCbxgBf18CbxgDqykCfjwDbesCfjwDbesCfjwDbxgCf18Dbxg
    Cf18DbxgCf18DbxgCfjwDbesCfjwDbesCfjwDbxgCf18DbxgCf18DbxgCfjwDbesCfjwDbesCfjw | 2007 -21600
    -18000 3 2 0 7200 11 1 0 7200 ; America/North_Dakota/New_Salem = -24339 -25200 -21600 -18000 |
    B.11qutgwCpto8BfjwCbesBfjwCgr44B2qfwCg7usBdh8CdhgBdh8CdhgBdh8CdhgBdh8CdhgBdzwCdhgBdh8CdhgBdh8
    C56sBlrwC8tgBi58CdhgBdzwCcysBdzwCdhgBdh8CdhgBdh8CdhgBdh8CdhgBdh8CdhgBdzwCcysBdzwCdhgBdh8Cdhg
    Bdh8CdhgBdh8CbxgBf18CbxgBfjwCbesBfjwCbesBfjwCbxgBf18CbxgBf18CbxgBfjwCbesBfjwCbesBfjwCbxgBf18
    CbxgBf18CbxgBf18CbxgBfjwCbesBfjwCbesBfjwCbxgBf18CbxgDqykCfjwDbesCfjwDbesCfjw | 2007 -21600
    -18000 3 2 0 7200 11 1 0 7200 ; America/Ojinaga = -25060 -25200 -21600 -18000 |
    B.1ln184wC4340B2kvwCcasBbekCdk4D1c404Cf18DbxgCf18BqysCbxgBfjwCbesBfjwCe04BavwCe04Bf18CbxgBf18
    CbxgBfjwCbesBfjwCbesBfjwCbesBfjwCbxgBf18CbxgBf18CadgBhmkC9c4BhmkC9c4BhmkC9c4BhmkC9c4BhmkC9c4
    BhmkC9usBhmkC9c4BhmkC9c4BhmkC9c4BhmkC9c4BhmkC9usBhmkC9c4 | 2023 -21600 -18000 3 2 0 7200 11 1 0
    7200 ; America/Panama = -19088 -19176 -18000 | B.14xui34C.9jvmqg | ; America/Paramaribo = -13240
    -13252 -13236 -12600 -10800 | B.1fwc88oC.cixc0cD.5lydbkE.kcrm6c | ; America/Phoenix US/Arizona =
    -26898 -25200 -21600 | B.11qutgwCpto8BfjwCbesBfjwCgr44B.zjedoC6qsBdjwC.bs6lmcBdh8 | ;
    America/Port-au-Prince = -17360 -17340 -18000 -14400 |
    B.14xugr4C.e4gmngD.ylcf6cCcykDdhgCdh8DdhgCdh8DdhgCdh8DdhgCdh8DbxkCfk0DbeoCfk0DbeoCfk0DbxcCf1c
    DbxcCf1cDbxcCfk0DbeoCfk0DbeoCfk0DbxcCf1cDbxcCf1cD5l6kCfjwDbesCfjwD4170ChmkD9c4ChmkD9c4ChmkD9c4
    Chmk | 2017 -18000 -14400 3 2 0 7200 11 1 0 7200 ; America/Porto_Acre America/Rio_Branco
    Brazil/Acre = -16272 -18000 -14400 |
    B.1hgpx8wC.99kak0BddcCdpgBdbwCciysBa2oCgyoB8ykCi2sB918Ci2sB6nwC83hgB658Cow4B4d8Ci5gB6nwCi5g
    B8vwCi5gB8ykCda5gB9ukCglgB8akCiqsB7rwCfbc4B41jw | ; America/Porto_Velho = -15336 -14400 -10800 |
    B.1hgpwiwC.99k8i0BddcCdpgBdbwCciysBa2oCgyoB8ykCi2sB918Ci2sB6nwC83hgB658Cow4B4d8Ci5gB6nwCi5g
    B8vwCi5gB8ykCda5gB9ukCglgB8akCiqsB7rw | ; America/Puerto_Rico = -15865 -14400 -10800 |
    B.19rdnllC.mhp1jbB2kas | ; America/Punta_Arenas = -17020 -16965 -18000 -14400 -10800 |
    B.14xughoC.ag6lahB.3dlssrD.157b79B.f4e0rD.49hzb9C.aye0rDbc4Cfp8Dbc4Cfp8Dbc4Cfp8Dbc4CfrwDbc4
    C7bp8D4isC3i7wD3s0Eg4g0DavwEhmsD9bwEeisDbekEfk4DbekEg2sDavwEf1gDbx8Eg2sDavwEg2sDbekEfk4Dbek
    Efk4DbekEg2sDavwEg2sDavwEg2sDbekEfk4DbekEfk4DbekEfk4DbekEg2sDavwEg2sDavwEg2sDdh8EdhgDbekEfk4
    DbekEg2sDavwEe04DcykEg2sDbekEfk4DbekEfk4DbekEfk4DbekEg2sDavwEg2sDcfwEeisDbekEeisDdzwEe04Dbek
    Eg2sDavwEg2sDavwEg2sDavwEg2sDbekEfk4DbekEfk4DbekEg2sDavwEg2sDcfwEeisDbekEfk4DcykEe04DfjwE7s4
    DinwE9c4DhmkE9usDh3wE9usD19mkE6qs | ; America/Rainy_River America/Winnipeg Canada/Central =
    -23316 -21600 -18000 |
    B.13njxckC.f0j80cBavwC16j0BeikCdxxgB9ukC3aasB2qfwCglgBbekCeisBbekCfk4BbekCfk4BbekCg5gBb98Cfms
    BbekCfk4BbekCfk4BbekCfk4BbekCfk4BbekCg2sBbekCfk4BbekCfk4BbekCfk4Bdh8CdhgBbekC1y04BavwC1y04Be00
    CdhcBdhcCdhcBdhcCdhcBdhcCdhcBdhcCdhcBe00CdhcBdhcCdhcBdhcCdhcBdhcCdhcBdhcCdhcBe00CcyoBe00Cdhc
    BdhcCdhcBdhcCdhcBdhcCdhcBdhcCdhcBe00CcyoBe00CdhcBdhcCdhcBdhcCdhcBdhcCbxcBf1cCbxcBfk0CbeoBfk0
    CbeoBfk0CbxcBf1cCbxcBf1cCbxcBfk0CbeoBfk0CbeoBfk0CbxcBf1cCbxcBf1cCbxcBf1cCbxcBfk0CbeoBfk0Cbeo
    Bfk0CbxcBf1cCbxcBf1cCbxcBfk0CbeoBfk0CbeoBfjw | 2007 -21600 -18000 3 2 0 7200 11 1 0 7200 ;
    America/Rankin_Inlet = 0 -21600 -18000 |
    B.23wmrcwCbiowBdh8CdhgBdh8CdhgBdh8CdhgBdh8CdhgBdzwCcysBdzwCdhgBdh8CdhgBdh8CdhgBdh8CdhgBdh8Cdhg
    BdzwCcysBdzwCdhgBdh8CdhgBdh8CdhgBdh8CbxgBf18CbxgBfjwCbesBfjwCbesBfjwCbxgBf18CbxgBf18CbxgBfjw
    CbesBfjwCbesBfjwCbxgBf18CbxgBf18CbxgBf18CbxgBfjwCbesB16ikCbxgBf18CbxgBf18CbxgBfjwCbesBfjwCbes
    Bfjw | 2007 -21600 -18000 3 2 0 7200 11 1 0 7200 ; America/Recife = -8376 -10800 -7200 |
    B.1hgpr5kC.99kb3cBddcCdpgBdbwCciysBa2oCgyoB8ykCi2sB918Ci2sB6nwC83hgB658Cow4B4d8Ci5gB6nwCi5g
    B8vwCi5gB8ykCda5gB9ukCglgB8akCiqsB7rwCio4B7rwCj6sB8t8C78tgBavwCglgBikCqysB9bw | ; America/Regina
    Canada/Saskatchewan = -25116 -25200 -21600 |
    B.1d452qkC.6l1hmcBeikC8nmkBbekCfk4BbekCfk4BbekCg2sBavwCg2sBbekC1vxgBdh8CdhgBcykCe04Bdh8Ce04
    Bdh8CdhgBdh8C8wcB2qfwCeisBdh8CeisBbekCfk4BbekCfk4BbekCg2sBavwCg2sBbekCfk4BbekCfk4BbekCfk4Bbek
    Cfk4BbekCg2sBbekCfk4BbekC16isBdh8Cdhg | ; America/Resolute = 0 -21600 -18000 |
    B.1z163cwCijcwBdh8CdhgBdh8CdhgBdh8CdhgBdh8CdhgBdzwCcysBdzwCdhgBdh8CdhgBdh8CdhgBdh8CdhgBdh8Cdhg
    BdzwCcysBdzwCdhgBdh8CdhgBdh8CdhgBdh8CbxgBf18CbxgBfjwCbesBfjwCbesBfjwCbxgBf18CbxgBf18CbxgBfjw
    CbesBfjwCbesBfjwCbxgBf18CbxgBf18CbxgBf18CbxgBfjwCbesB16ikCbxgBf18CbxgBf18CbxgBfjwCbesBfjwCbes
    B1718 | 2008 -21600 -18000 3 2 0 7200 11 1 0 7200 ; America/Santarem = -13128 -14400 -10800 |
    B.1hgputkC.99ka7cBddcCdpgBdbwCciysBa2oCgyoB8ykCi2sB918Ci2sB6nwC83hgB658Cow4B4d8Ci5gB6nwCi5g
    B8vwCi5gB8ykCda5gB9ukCglgB8akCiqsB7rwCfbc4 | ; America/Santiago Chile/Continental = -16965
    -18000 -14400 -10800 |
    B.1fe11s5A.3dlssrC.157b79A.f4e0rC.49hzb9B.aye0rCbc4Bfp8Cbc4Bfp8Cbc4Bfp8Cbc4BfrwCbc4B7bp8C4is
    D2yykC3bwBfxgC3s0Dg4g0CavwDhmsC9bwDeisCbekDfk4CbekDg2sCavwDf1gCbx8Dg2sCavwDg2sCbekDfk4CbekDfk4
    CbekDg2sCavwDg2sCavwDg2sCbekDfk4CbekDfk4CbekDfk4CbekDg2sCavwDg2sCavwDg2sCdh8DdhgCbekDfk4Cbek
    Dg2sCavwDe04CcykDg2sCbekDfk4CbekDfk4CbekDfk4CbekDg2sCavwDg2sCcfwDeisCbekDeisCdzwDe04CbekDg2s
    CavwDg2sCavwDg2sCavwDg2sCbekDfk4CbekDfk4CbekDg2sCavwDg2sCcfwDeisCbekDfk4CcykDe04CfjwD7s4Cinw
    D9c4ChmkD9usCh3wD9usC19mkD6qsCk7wD6qsCk7wD6qsChmkDbesCfjwDbesCfjwDbesCfjwDbxg | 2023 -14400
    -10800 9 1 6 86400 4 1 6 86400 ; America/Santo_Domingo = -16776 -16800 -18000 -14400 -16200 |
    B.14xugawC.mkixcoD.hiw29cC8ykE1zxgC8qmEi82C6fyEl1eC62mEkw2C67yEkqqC6amDko2CjjmsD2lc | ;
    America/Sao_Paulo Brazil/East = -11188 -10800 -7200 |
    B.1hgptboC.99k8x8BddcCdpgBdbwCciysBa2oCgyoB8ykCi2sB918Ci2sB6nwC8004B9mkCow4B4d8Ci5gB6nwCi5g
    B8vwCi5gB8ykCda5gB9ukCglgB8akCiqsB7rwCio4B7rwCj6sB8t8Cio4B8t8Ci5gB8akCj6sB798Cj6sB9bwChmsB9bw
    ChmsB8t8ChmsB9ukCh6sBat8CglgB9ukCglgBavwCglgB9ukChmsB9bwCj6sB7rwCi5gB8t8Cjc4B858ChmsB9bwCj6s
    B8akCh44B9bwCi5gB8t8Ci5gB9bwChmsB9bwChmsB9ukChmsB8t8Ci5gB8t8Ci5gB9bwChmsB9bwChmsB9bwChmsB9bw
    Cj6sB7rw | ; America/Scoresbysund = -5272 -7200 -3600 0 |
    B.1it0krcC.x8ntpkBcyoDdh4Cdh8DdhcCdhcDdhcCdhcDdhcCe00DdhcCdhcDdhcCdhcDdhcCdhcDdhcCdhcDdhcCdhc
    DdhcCe00DdhcCdhcDdhcCdhcDdhcCdhcDdhcCdhcDdhcCdhcDe00Cfk0DbeoCfk0DbeoCfk0DbeoCg2oDaw0Cg2oDaw0
    Cg2oDbeoCfk0DbeoCfk0DbeoCg2oDaw0Cg2oDaw0Cg2oDaw0Cg2oDbeoCfk0DbeoCfk0DbeoCg2oDaw0Cg2oDaw0Cg2o
    DbeoCfk0DbeoCfk0DbeoCfk0DbeoCg2oDaw0Cg2oDaw0Cg2oDbeoCfk0DbeoCfk0DbeoCg2oDaw0Cg2oDaw0Cg2oBqyo |
    2025 -7200 -3600 3 5 0 -3600 10 5 0 0 ; America/Sitka = 53927 -32473 -28800 -25200 -32400 |
    B.tcnm4xCoofmD.ln701zC2qfwDhps4Cdh8DdhgCdh8DdhgCdzwDdhgCdh8DdhgCdh8D56sClrwD8tgCi58DdhgCdzw
    DcysCdzwDdhgCdh8DdhgCdh8DdhgCdh8DdhgCdh8DdhgCdzwDcysEdzwCdhkEdh8CdhgEdh8CdhgEdh8CbxgEf18Cbxg
    EfjwCbesEfjwCbesEfjwCbxgEf18CbxgEf18CbxgEfjwCbesEfjwCbesEfjwCbxgEf18CbxgEf18CbxgEf18CbxgEfjw
    CbesEfjwCbesEfjwCbxgEf18CbxgEf18CbxgEfjwCbesEfjwCbesEfjw | 2007 -32400 -28800 3 2 0 7200 11 1 0
    7200 ; America/St_Johns Canada/Newfoundland = -12652 -9052 -12600 -9000 -5400 |
    B.1j639ccAbzwBfhgAeikBe54A7bwBjk4Adh8BdhgAdh8Be04AcykBe04AcykBe04AcykBe04AcykBe04Adh8BdhgAdh8
    Be04AcykBe04AcykBe04AcykBe04AcykBe04Adh8Be04AcykBe04AcykCb9kD.1wfukCcykDeiwCavwDg2sCavwDg2s
    CavwDglgCad8DglgCavwDg2sCavwDg2sC2jpgDglgCavwDg2sCavwDg2sCavwDg2sCavwDglgCavwDf1gCbekDfk4Cbek
    Dfk4CbekDfk4CbekDfk4CbekDg2sCbekDfk4CbekDfk4CbekDfk4CbekDfk4CdzwDdhgCdh8DdhgCdh8DdhgCdh8Ddhg
    Cdh8DdhgCdzwDcysCdzwDdhgCdh8DdhgCdh8DdhgCdh8DdhgCdh8DdhgCdzwDdhgCdh8DdhgCdh8DdhgCdh8DdhgCdh8
    DdhgCdzwDcysCdzwDdhgCdh8DdhgCdh8DdhgCdh8DdhgCdh8DdhgCdzwDcysCdzwDdhgCdh8DdhgCdh8DdhgCdh8
    D.8a2loCf18EbxgCfjsDbewCfjwDbesCfjwDbxgCf18DbxgCf18DbxgCfjwDbesCfjwDbesCfjwDbxgCf18DbxgCf18
    DbxgCf18DbxgCfjwDbesCfjwDbesCfjwDbxgCf18DbxgCf18DbxgCfjwDbesCfjwDbesCfjwD9usChmkD9c4ChmkD9c4
    ChmkD9usChmkD9c4C.c8tec | 2012 -12600 -9000 3 2 0 7200 11 1 0 7200 ; America/St_Kitts = -15052
    -14400 | B.1gi95n0 | ; America/St_Lucia = -14640 -14400 | B.1gf46nk | ; America/St_Thomas
    America/Virgin = -15584 -14400 | B.1g5ngps | ; America/St_Vincent = -14696 -14400 | B.1gf46p4 |
    ; America/Swift_Current = -25880 -25200 -21600 |
    B.1d453bsC.6l1h14BeikChi2sB2qfwCfk4BcfwCeisBbekCfk4BbekCfk4BbekC5pc4Bdh8C14g4Bdh8CdhgBbekCg2s
    BavwC7yqs | ; America/Tegucigalpa = -20932 -21600 -18000 |
    B.1l8vvicC.yho0ikBavwCg2sBavwCd8isB6t8 | ; America/Thule = -16508 -14400 -10800 |
    B.1it0tfgC.12yzilgBdh8CdhgBdh8Ce04BfjwCbesBfjwCbesBfjwCbxgBf18CbxgBf18CbxgBf18CbxgBfjwCbesBfjw
    CbesBfjwCbxgBf18CbxgBf18CbxgBfjwCbesBfjwCbesBfjw | 2007 -14400 -10800 3 2 0 7200 11 1 0 7200 ;
    America/Tortola = -15508 -14400 | B.1g5ngno | ; America/Vancouver Canada/Pacific = -29548 -28800
    -25200 |
    B.11t3gtoC.hw36b8BeikChi2sB2qfwCfk4BbekCfk4BbekCfk4BbekCfk4BbekCg2sBavwCg2sBbekCfk4BbekCfk4
    BbekCfk4BbekCfk4BbekCg2sBbekCfk4BbekCfk4BbekCfk4BbekCfk4BbekCg2sBavwCg2sBdh8CdhgBdh8CdhgBdh8
    CdhgBdzwCcysBdzwCdhgBdh8CdhgBdh8CdhgBdh8CdhgBdh8CdhgBdzwCdhgBdh8CdhgBdh8CdhgBdh8CdhgBdh8Cdhg
    BdzwCcysBdzwCdhgBdh8CdhgBdh8CdhgBdh8CdhgBdh8CdhgBdzwCcysBdzwCdhgBdh8CdhgBdh8CdhgBdh8CbxgBf18
    CbxgBfjwCbesBfjwCbesBfjwCbxgBf18CbxgBf18CbxgBfjwCbesBfjwCbesBfjwCbxgBf18CbxgBf18CbxgBf18Cbxg
    BfjwCbesBfjwCbesBfjwCbxgBf18CbxgBf18CbxgBfjwCbesBfjwCbesBfjw | 2007 -28800 -25200 3 2 0 7200 11
    1 0 7200 ; America/Whitehorse Canada/Yukon = -32412 -32400 -28800 -25200 |
    B.1ahlj18C.97l6voBeikCfk4BbucCgqocB2qfwDepekBe00C8tcDan6sCdh8DdhgCdh8DdhgCdzwDcysCdzwDdhgCdh8
    DdhgCdh8DdhgCdh8DbxgCf18DbxgCfjwDbesCfjwDbesCfjwDbxgCf18DbxgCf18DbxgCfjwDbesCfjwDbesCfjwDbxg
    Cf18DbxgCf18DbxgCf18DbxgCfjwDbesCfjwDbesCfjwDbxgCf18DbxgCf18DbxgCfjwDbesCfjwDbesCfjwD9usChmk
    D9c4ChmkD9c4ChmkD9usChmkD9c4ChmkD9c4ChmkD9c4ChmkD9c4ChmkD9c4ChmkD9usChmkD9c4ChmkD9c4ChmkD9c4
    ChmkD9c4 | ; America/Yakutat = 52865 -33535 -32400 -28800 |
    B.tcnm4xC.h4yv3iD.ln720hC2qfwDhps4Cdh8DdhgCdh8DdhgCdzwDdhgCdh8DdhgCdh8D56sClrwD8tgCi58DdhgCdzw
    DcysCdzwDdhgCdh8DdhgCdh8DdhgCdh8DdhgCdh8DdhgCdzwDcysCdzwDdhgCdh8DdhgCdh8DdhgCdh8DbxgCf18Dbxg
    CfjwDbesCfjwDbesCfjwDbxgCf18DbxgCf18DbxgCfjwDbesCfjwDbesCfjwDbxgCf18DbxgCf18DbxgCf18DbxgCfjw
    DbesCfjwDbesCfjwDbxgCf18DbxgCf18DbxgCfjwDbesCfjwDbesCfjw | 2007 -32400 -28800 3 2 0 7200 11 1 0
    7200 ; Antarctica/Casey = 0 28800 39600 |
    B.2a63fcwCunooBa7oC18loB8nwC3i7wB11esCfkcBbwwCewcBbjoC.asw1oB.89wycC.ag5poB.89wycC.ag5po B.84lac
    | ; Antarctica/Davis = 0 25200 18000 | B.23x8zcwA5v0kB3724Cule4Bao4C1858B8o4 | ;
    Antarctica/DumontDUrville = 0 36000 | B.1yopy0wA3s6wB3lvs | ; Antarctica/Macquarie = 0 36000
    39600 |
    B.1a2k3cwCcplsBcyoA1il4Bls6gCeo1sBdhcCfk0B9uoCh40B9uoCh40BadcCh40B8tcCi5cB9c0ChmoB9c0ChmoB9c0
    ChmoB9uoChmoB9c0ChmoB9c0ChmoB9c0ChmoB9c0ChmoB9c0ChmoBbeoCg2oBaw0Cg2oB9c0ChmoB9c0ChmoB9c0Ch40
    Baw0CglcBaw0CglcBadcCglcBadcCglcBbeoCe00BcyoCe00BcyoCe00BcyoCe00BcyoCe00BdhcCe00BcyoCe00Bcyo
    Ce00BcyoCe00BcyoCbeoBfk0CeioBcyoCe00BcyoCe00BcyoCe00BcyoCe00BdhcCdhcBcyoCeioBdhcCdhcBdhcCdhc |
    2011 36000 39600 10 1 0 7200 4 1 0 10800 ; Antarctica/Mawson = 0 21600 18000 | B.22egrcwC15ucw |
    ; Antarctica/McMurdo Antarctica/South_Pole = 0 43200 46800 |
    B.23dszcwCe5o8B8aoCi5cB9uoChmoB9c0ChmoB9c0ChmoB9c0ChmoB9c0ChmoB9c0ChmoB9uoChmoB9c0ChmoB9c0Chmo
    B9c0ChmoB9c0ChmoB9c0ChmoB9uoChmoB9c0Cg2oBbxcCf1cBbxcCf1cBbxcCf1cBcg0CeioBcg0CeioBcg0CeioBcg0
    Cf1cBbxcCf1cBbxcCf1cBcg0CeioBcg0CeioBcg0Cf1cBbxcCf1cBbxcCf1cBcg0CeioBcg0CeioBcg0CeioBcg0Ceio |
    2008 43200 46800 9 5 0 7200 4 1 0 10800 ; Antarctica/Palmer = 0 -10800 -14400 -7200 |
    B.282xvcwC4doBgw4Ca58Bgw4CcikBdhgCdzwBdhgCdh8BdhgD38d8B798C60g4Bc04CbekBfk4CbekBg2sCavwBg2s
    CavwBg2sCdh8BdhgCbekBfk4CbekBg2sCavwBe04CcykBg2sCbekBfk4CbekBfk4CbekBfk4CbekBg2sCavwBg2sCcfw
    BeisCbekBeisCdzwBe04CbekBg2sCavwBg2sCavwBg2sCavwBg2sCbekBfk4CbekBfk4CbekBg2sCavwBg2sCcfwBeis
    CbekBfk4CcykBe04CfjwB7s4CinwB9c4ChmkB9usCh3wB9usC19mkB6qs | ; Antarctica/Rothera = 0 -10800 |
    B.2eat4ow | ; Antarctica/Syowa = 0 10800 | B.23y2m0w | ; Antarctica/Troll = 0 | | 2005 0 7200 3
    5 0 3600 10 5 0 10800 ; Antarctica/Vostok = 0 25200 18000 | B.24el20wAr5gkBk8sClw24 | ;
    Arctic/Longyearbyen Atlantic/Jan_Mayen Europe/Oslo = 2580 3600 7200 |
    B.17jrip8C.b5svboB9p4ChxmoB1o8cCaw0Be00CdhcBdhcCdhcBdhcCa3xcBe00CdhcBdhcCdhcBdhcCdhcBdhcCdhc
    BdhcCdhcBe00Cg2oBaw0Caxk0BcyoCdhcBdhcCdhcBdhcCdhcBdhcCdhcBe00CdhcBdhcCdhcBdhcCdhcBdhcCdhcBdhc
    CdhcBdhcCdhcBe00CdhcBdhcCdhcBdhcCdhcBdhcCdhcBdhcCdhcBdhc | 1996 3600 7200 3 5 0 7200 10 5 0
    10800 ; Asia/Aden = 10794 10800 | B.2093cd2 | ; Asia/Almaty = 18468 18000 21600 25200 |
    B.1muu2fwC.37a0d0D125ukCdjwDdhgCdjwDdhgCdjwDdk4CdhkDdhcCdhcDdhcCdhcDdhcCdhcDdhcCdhcDdhcCdhc
    DdhcCe00BqysC8aoD56kCdhcDdhcCdhcDdhcCdhcDdhcCdhcDe00Cfk0DbeoCfk0DbeoCfk0DbeoCg2oDaw0Cg2oDaw0
    Cg2oDbeoCfk0DbeoCfk0DbeoCg2oBej14 | ; Asia/Amman = 8624 7200 10800 |
    B.1qc3jdcC.m566fkB8nwCfpgBbbwCfpgBbbwCfs4BdmkCdesBbbwCfmsBbbwC4vxgBdjwCdpgBdh8CdhgBdh8CdhgBdzw
    Cfs4Bb6kCf1gBbx8CedgBc2kCeisBcykCdhgBdh8CdhgBcfwCf1gBbxcCf1cBcg0CeioBcg0CeioBcg0Cl6oB6aoCdxc
    Bdk0CdeoBdk0CdhcBdhcCdhcBfk0CbeoBf1cCcg0BdhcCdhcBfk0CbeoBfk0CbeoBg2oCaw0Bg2oCaw0Bg2oCbeoBfk0
    CbeoB1anwC79gBg2oCaw0Bg2oCbeoBfk0CbeoBfk0CbeoBfk0CbeoBfk0CbeoBg2oCaw0Bg2oC8tc | ; Asia/Anadyr =
    42596 43200 46800 50400 39600 |
    B.1mutjtoC.379zj8D125ukCdjwBr1gCdhgBdjwCdk4BdhkCdhcBdhcCdhcBdhcCdhcBdhcCdhcBdhcCdhcBdhcCdhc
    Be00EqysB8aoC56kBdhcCdhcBdhcCdhcBdhcCdhcBdhcCe00Bfk0CbeoBfk0CbeoBfk0CbeoBg2oCaw0Bg2oCaw0Bg2o
    CbeoBfk0CbeoBfk0CbeoBg2oCaw0Bg2oCaw0Bg2oCaw0Bg2oCbeoBfk0CbeoBfk0ErhgBaw0 | ; Asia/Aqtau = 12064
    14400 18000 21600 |
    B.1muu7dsC.379y74D12jekCr18DdhgCdjwDdk4CdhkDdhcCdhcDdhcCdhcDdhcCdhcDdhcCdhcDdhcCdhcDdhcCe00
    BqysC8aoD56kCdhcDdhcCdhcDdhcBdhcCdhgBdhcCe00Bfk0CbeoBfk0CbeoBfk0CbeoBg2oCaw0Bg2oCaw0Bg2oCbeo
    Bfk0CbeoBfk0Cbeo | ; Asia/Aqtobe = 13720 14400 18000 21600 |
    B.1muu63sC.379zh4D125ukC14l8DdhgCdjwDdk4CdhkDdhcCdhcDdhcCdhcDdhcCdhcDdhcCdhcDdhcCdhcDdhcCe00
    BqysC8aoD56kCdhcDdhcCdhcDdhcCdhcDdhcCdhcDe00Cfk0DbeoCfk0DbeoCfk0DbeoCg2oDaw0Cg2oDaw0Cg2oDbeo
    Cfk0DbeoCfk0DbeoCg2o | ; Asia/Ashgabat Asia/Ashkhabad = 14012 14400 18000 21600 |
    B.1muu5voC.379zp8D125ukCdjwDdhgCdjwDdhgCdjwDdk4CdhkDdhcCdhcDdhcCdhcDdhcCdhcDdhcCdhcDdhcCdhc
    DdhcCe00BqysC8ao | ; Asia/Atyrau = 12464 10800 18000 21600 14400 |
    B.1muu72oC.37a1a8D12jegCr18DdhgCdjwDdk4CdhkDdhcCdhcDdhcCdhcDdhcCdhcDdhcCdhcDdhcCdhcDdhcCe00
    EqysC8aoD56kCdhcDdhcCdhcDdhcCdhcDdhcCdhcDe00Cfk0DbeoCfk0DbeoCfk0ErhgCaw0Eg2oCaw0Eg2oCbeoEfk0
    CbeoEfk0Cbeo | ; Asia/Baghdad = 10660 10656 10800 14400 |
    B.14xtv4sC.em11c4D.xkn3w0CbbwDdesCdmkDdk4CdjwDdhgCdesDdhcCdhcDdhcCdhcDdhcCdhcDdhcCdhcDdhcCe00
    Ddk8Cdk0Ddk0Cdk0DdhcCdk0DdhcCdk0DdhcCdk0Ddk0Cdk0DdhcCdk0DdhcCdk0DdhcCdk0Ddk0Cdk0DdhcCdk0Ddhc
    Cdk0DdhcCdk0Ddk0Cdk0DdhcCdk0DdhcCdk0DdhcCdk0 | ; Asia/Bahrain = 12140 12600 14400 10800 |
    B.1vuanboC.1a1eb8Dlcta | ; Asia/Baku = 11964 10800 14400 18000 |
    B.1muu7gkC.h4tkwcDi3mkCdjwDdhgCdjwDdhgCdjwDdk4CdhkDdhcCdhcDdhcCdhcDdhcCdhcDdhcCdhcDdhcCdhcDdhc
    Ce00BqysCdhcD30dkCfk0DbekCfk0DbeoCfk0DbeoCg2oDaw0Cg2oDaw0Cg2oDbeoCfk0DbeoCfk0DbeoCg2oDaw0Cg2o
    Daw0Cg2oDaw0Cg2oDbeoCfk0DbeoCfk0DbeoCg2oDaw0Cg2oDaw0Cg2oDbeoCfk0DbeoCfk0DbeoCfk0 | ;
    Asia/Bangkok = 24124 25200 | B.1kq2zes | ; Asia/Barnaul = 20100 21600 25200 28800 |
    B.1kk9t6kC.5hu6ucD125ukCdjwDdhgCdjwDdhgCdjwDdk4CdhkDdhcCdhcDdhcCdhcDdhcCdhcDdhcCdhcDdhcCdhc
    DdhcCe00BqysC8aoD56kCdhcDdhcCdhcDdhcCdhcDdhcC4noB8tsCe00Bfk0CbeoBfk0CbeoBfk0CbeoBg2oCaw0Bg2o
    Caw0Bg2oCbeoBfk0CbeoBfk0CbeoBg2oCaw0Bg2oCaw0Bg2oCaw0Bg2oCbeoBfk0CbeoBfk0CbeoBg2oCaw0B2oykC12dg |
    ; Asia/Beirut = 8520 7200 10800 |
    B.zpx3g8C.kzyucoBfmkCbusBdjwCcw4BeikCeisBavwCp9pgBbbwCfpgBbbwCfpgBbbwCfs4BbbwCfpgBbbwC825gB7h8
    CfpgBbbwCfpgBbbwCfpgBbbwCfs4BbbwCfpgBbbwCfmsBbbwC4744BcfwCelgBcfwCelgBcfwCelgBcfwCgysBa58Cf9g
    BbrwCelgBcfwCelgBcfwCeo4BbjwCcysBdh8CdhgBdh8CdhgBdh8Ce04Bdh8CdhgBdh8CdhgBdh8 | 1999 7200 10800 3
    5 0 0 10 5 0 0 ; Asia/Bishkek = 17904 18000 21600 25200 |
    B.1muu2vkC.379zxcD125ukCdjwDdhgCdjwDdhgCdjwDdk4CdhkDdhcCdhcDdhcCdhcDdhcCdhcDdhcCdhcDdhcCdhc
    DdhcCe00BotcCgnwBcfwCeisBcfwCeisBcfwCeisBcfwCeisBcykCdhqBfjwCbesBfjwCbesBg2kCaw4Bg2kCaw4Bg2k
    CbesBfjwCbesBfjwCbesBg2kCaw4 | ; Asia/Brunei = 27580 27000 28800 | B.1nt6wqsC.3khxs4 | ;
    Asia/Calcutta Asia/Kolkata = 21208 21200 19270 19800 23400 |
    B.mel9nsC.83glc8D.isc6tmE.innm9aDgqkE82sD2cfw | ; Asia/Chita = 27232 28800 32400 36000 |
    B.1kkix0gC.5hkxggD125ukCdjwDdhgCdjwDdhgCdjwDdk4CdhkDdhcCdhcDdhcCdhcDdhcCdhcDdhcCdhcDdhcCdhc
    DdhcCe00BqysC8aoD56kCdhcDdhcCdhcDdhcCdhcDdhcCdhcDe00Cfk0DbeoCfk0DbeoCfk0DbeoCg2oDaw0Cg2oDaw0
    Cg2oDbeoCfk0DbeoCfk0DbeoCg2oDaw0Cg2oDaw0Cg2oDaw0Cg2oDbeoCfk0DbeoCfk0DbeoCg2oDaw0B2oykC12dk | ;
    Asia/Choibalsan Asia/Ulaanbaatar Asia/Ulan_Bator = 25652 25200 28800 32400 |
    B.1d2ikwcC.11sncckD3xx8CdjwDdk4Cdh8DdhgCdh8DdhgCdh8DdhgCdh8DdhgCdh8DdhgCdh8DdhgCdzwDdhgCdh8
    DdhgCdh8DdhgCdh8DdhgCdh8DdhgCdh8De04Cdh8DdhgCdh8DdhgCdh8D1xxoCbekDdhgCdh8DdhgCdh8DdhgCdh8Ddhg
    Cdh8DdhgCdzwD6dpgCdh0DdhoCdh0 | ; Asia/Chongqing Asia/Chungking Asia/Harbin Asia/Shanghai PRC =
    29143 28800 32400 |
    B.1aogcvdC.9jeyxjBcnwCfj6sB9x8Cbc4Bh6kC6o4B2p18Ciw4BaakCeisBet8CdhgBbbwCfpgB1zwCrr9oB9ukCfk4
    BbekCg2sBavwCg2sBbekCfk4BbekCfk4Bbek | ; Asia/Colombo = 19164 19172 19800 21600 23400 |
    B.zpwv8kC.dkh6nsD.isle6kEhpaC2ciuE1216kDbemC745e | ; Asia/Dacca Asia/Dhaka = 21700 21200 23400
    19800 21600 25200 | B.14xtmm4C.r080dwD.bmgywC82sE6tmkF17dpaEeg0 | ; Asia/Damascus = 8712 7200
    10800 |
    B.1klesmwC.5k6q0BcfwCeisBcfwCeisBcfwCeisBcykCsz9gBbh8CfpgBb98CfusBbbwCfpgBb98Cf9gBbukCfpgBbbw
    Cfs4BbbwCfpgBbbwCfpgBbbwCfpgBbbwCfs4BbbwCfpgBbbwCfpgBbbwCfpgBbbwCfs4BbbwCfpgB93wChxgB93wC3gis
    BcykCe5gBcykC119gBhekCalgBi2kCa2sBh18Cb6sBdmkCdhgBdh8CdjwBdjwCe2sBd18Cd1gBdjwCdxgBdjwCdhgBdjw
    Cdk4BdjwCdesBdmkCdc4Bdp8CdhgBdjwCdk4BdjwCdhgBdjwCdhgBdjwCdhgBdjwCdk4BdjwCdhgBdjwCdhgBcvwCe04
    Bg2kCbesBfmkCatgBg2kCbesBfjwCbesBfjwCbesBfjwCbesBfjwCbesBg2kCaw4Bg2kCaw4Bg2kCbesBfjwCbesBfjw
    CbesBfjwCbesBg2kCaw4Bg2kCaw4 | ; Asia/Dili = 30140 28800 32400 | B.1gf394wCmnjwBpp40Cibhg | ;
    Asia/Dubai = 13272 14400 | B.1klep48 | ; Asia/Dushanbe = 16512 18000 21600 25200 |
    B.1muu3y8C.379yuoD125ukCdjwDdhgCdjwDdhgCdjwDdk4CdhkDdhcCdhcDdhcCdhcDdhcCdhcDdhcCdhcDdhcCdhc
    DdhcCe00Bphg | ; Asia/Famagusta = 8148 7200 10800 |
    B.1lkjmekC.rvhy2cBdh8Cg04Bb18Ccw4BcykCe04BdjwCdesBdh8Ce04BcykCdhgBdh8CdhgBdh8CdhgBdh8CdhgBdzw
    CdhgBdh8CdhgBdh8CdhgBdh8CdhgBdh8CdhgBdh8CdhgBdzwCdhgBdh8CdhgBdh8CdhgBdh8CdhgBdh8CdhgBdh8Ce04
    Bdh8CdhgBdh8CdhgBfkcCbeoBg2oCaw0Bg2oCaw0Bg2oCbeoBfk0CbeoBfk0CbeoBg2oCaw0Bg2oCaw0Bg2oCaw0Bg2o
    CbeoBfk0CbeoBfk0CbeoBg2oCaw0Bg2oCaw0Bg2oCbeoBfk0CbeoBfk0CbeoBfk0CbeoB171c | 2018 7200 10800 3 5
    0 10800 10 5 0 14400 ; Asia/Gaza = 8272 7200 10800 |
    B.1ajqfn4C.kp9t1sB91cC3hcB1gw0Cb6oBfuoCb9cBfuoCcaoBeqoCcaoBeqoC7wnsBanwCfpgBbbwCfpkBb9gCfuk
    Bb9gCfrwBb9gCfrwBb9gCfrwBb9gCfukBb9gCfrwBb9gCfrwBbc4Cfp8B2l4C5bs4B798Ce04B9ukC3p9gB340C2qio
    B8aoCh40Bad8Cj6sB8akCgasBb6kCfk4BavwChmsB9bwCf1gBbekCfk4Bbx8Cfk4Bbx8CfesBbjwCfesBb18CfxgBbjw
    CfxgBcg0CeioBcg0CeioBcg0Cfk0Bdh8Ce04Bdh8CdhgBdh8CdhgBdh8CdhgBdh8CdhgBcg0CeioBcqsCd98BcvwCe5g
    Bc84Cel8BbekCfk4BbxcC.ahs1oB.71micC.bzk5oB.69uicChxgBcyoCe00Bdh8CdhgBfjwCbhgBfhcCbhgBg2kCaw4
    Bg2kCaw4Bg2kCbc0BfmkCbesBfk0CbeoBg00Cb1cBg04CdhgBdh8CcysBdzwCcg4BeikCbesBfjwCbesBg2kCaw4Bg2k
    Caw4Bg2kCbesBfjwCbesBfjwCbesBg2kCaw4Bg2kCaw4Bg2kCaw4Bg2kCbesBf18CbxgBeikCcg4Bdh8CdhgBcykCe04
    Bbx8C3msBikCbesBavwC344B1jwCbesBad8C344B22kCbesB9bwC3msB2l8CbesB8t8C344B458Caw4B8akC344B4nw
    Caw4B798C3msB56kCbesB67wC344B67wCbesB56kC3msB6qkCbesB4nwC344B8akCaw4B458C344B8t8Caw4B33wC3ms
    B9bwCbesB22kC344Bad8CbesB118C3msBavwCbesBikC3msBbekCeisBcykCdhgBdh8Ccg4BeikCbxgBf18CbesBfjw
    CbesBg2kCaw4Bg2kCaw4Bg2kCaw4Bg2kCbesBfjwCbesBfjwCbesBg2kCaw4Bg2kCaw4BfjwCbxgBeikCcg4BdzwCcys
    BcykCe04BcfwC344BikCaw4Bbx8C344B118Caw4BavwC3msB1jwCbesB9ukC344B2l8CbesB8t8C3msB33wCbesB8ak
    C3msB458Caw4B7rwC344B56kCaw4B6qkC3msB5p8CbesB5p8C344B6qkCbesB56kC344B798CbesB458C3msB7rwCbes
    B3mkC344B9bwCaw4B2l8C3msB9ukCaw4B22kC3msBad8CbesB118C344Bbek | 2087 7200 10800 3 4 4 180000 10 4
    4 180000 ; Asia/Hebron = 8423 7200 10800 |
    B.1ajqfixC.kp9t5zB91cC3hcB1gw0Cb6oBfuoCb9cBfuoCcaoBeqoCcaoBeqoC7wnsBanwCfpgBbbwCfpkBb9gCfuk
    Bb9gCfrwBb9gCfrwBb9gCfrwBb9gCfukBb9gCfrwBb9gCfrwBbc4Cfp8B2l4C5bs4B798Ce04B9ukC3p9gB340C2qio
    B8aoCh40Bad8Cj6sB8akCgasBb6kCfk4BavwChmsB9bwCf1gBbekCfk4Bbx8Cfk4Bbx8CfesBbjwCfesBb18CfxgBbjw
    CfxgBcg0CeioBcg0CeioBcg0Cfk0Bdh8Ce04Bdh8CdhgBdh8CdhgBdh8CdhgBdh8CdhgBcg0CeioBcqsCd98BcvwCe5g
    Bc84Cel8BbmkCfc4BbxcCf1cBa7wC.bzk5oB.69uicC25gB2akCdhgBcyoCe00Bdh8CdhgBfjwCbhgBfhcCbhgBg2kCaw4
    Bg2kCaw4Bg2kCbc0BfmkCbesBfk0CbeoBg00Cb1cBg04CdhgBdh8CcysBdzwCcg4BeikCbesBfjwCbesBg2kCaw4Bg2k
    Caw4Bg2kCbesBfjwCbesBfjwCbesBg2kCaw4Bg2kCaw4Bg2kCaw4Bg2kCbesBf18CbxgBeikCcg4Bdh8CdhgBcykCe04
    Bbx8C3msBikCbesBavwC344B1jwCbesBad8C344B22kCbesB9bwC3msB2l8CbesB8t8C344B458Caw4B8akC344B4nw
    Caw4B798C3msB56kCbesB67wC344B67wCbesB56kC3msB6qkCbesB4nwC344B8akCaw4B458C344B8t8Caw4B33wC3ms
    B9bwCbesB22kC344Bad8CbesB118C3msBavwCbesBikC3msBbekCeisBcykCdhgBdh8Ccg4BeikCbxgBf18CbesBfjw
    CbesBg2kCaw4Bg2kCaw4Bg2kCaw4Bg2kCbesBfjwCbesBfjwCbesBg2kCaw4Bg2kCaw4BfjwCbxgBeikCcg4BdzwCcys
    BcykCe04BcfwC344BikCaw4Bbx8C344B118Caw4BavwC3msB1jwCbesB9ukC344B2l8CbesB8t8C3msB33wCbesB8ak
    C3msB458Caw4B7rwC344B56kCaw4B6qkC3msB5p8CbesB5p8C344B6qkCbesB56kC344B798CbesB458C3msB7rwCbes
    B3mkC344B9bwCaw4B2l8C3msB9ukCaw4B22kC3msBad8CbesB118C344Bbek | 2087 7200 10800 3 4 4 180000 10 4
    4 180000 ; Asia/Ho_Chi_Minh Asia/Saigon = 25590 25200 28800 32400 |
    B.1g2hma2C.gj25iuD1njwBco0C16o8B676oC3dukBblxc | ; Asia/Hong_Kong Hongkong = 27402 28800 32400
    30600 |
    B.1codbwwCriw8D800C6aaB2xhiCbekBglqC9uoBh40CbeoBdhcCbeoBfk0CbeoBfk0CbeoBfk0CbxcBfk0CbeoBfjw
    CadgBgl8CadgBh3wC9usBh3wCadgBgl8CadgBgl8CadgBgl8CadgBh3wC9usBh3wC9usBh3wCadgBgl8CadgBgl8Ccg4
    Bdh8CdhgBdh8CdhgBdzwCdhgBdh8CdhgBdh8CdhgBdh8CdhgBdh8CdhgBdzwCdhgBdh8C56sBlrwCdhgBdh8CdhgBdh8
    C1xhgBbx8 | ; Asia/Hovd = 21996 21600 25200 28800 |
    B.1d2inpwC.11sncb0D3xx8CdjwDdk4Cdh8DdhgCdh8DdhgCdh8DdhgCdh8DdhgCdh8DdhgCdh8DdhgCdzwDdhgCdh8
    DdhgCdh8DdhgCdh8DdhgCdh8DdhgCdh8De04Cdh8DdhgCdh8DdhgCdh8D1xxoCbekDdhgCdh8DdhgCdh8DdhgCdh8Ddhg
    Cdh8DdhgCdzwD6dpgCdh0DdhoCdh0 | ; Asia/Irkutsk = 25025 25200 28800 32400 |
    B.1kmmw1rC.5fh175D125ukCdjwDdhgCdjwDdhgCdjwDdk4CdhkDdhcCdhcDdhcCdhcDdhcCdhcDdhcCdhcDdhcCdhc
    DdhcCe00BqysC8aoD56kCdhcDdhcCdhcDdhcCdhcDdhcCdhcDe00Cfk0DbeoCfk0DbeoCfk0DbeoCg2oDaw0Cg2oDaw0
    Cg2oDbeoCfk0DbeoCfk0DbeoCg2oDaw0Cg2oDaw0Cg2oDaw0Cg2oDbeoCfk0DbeoCfk0DbeoCg2oDaw0C2oyk | ;
    Asia/Istanbul Europe/Istanbul Turkey = 6952 7016 7200 10800 14400 |
    B.zpx4nsC.g1oam8D.2wvx6wCbbwD2mdgCfmkDbusCdjwDcw4CeikD176sCafwDfpgCbbwDb31gC76kD45gClrwDe84
    C2n98DhhgC918Dew4CcfwDeisCcfwDe04CcykDeisCcykDeisCcfwD83esCyykDeo4CaakD6ilkCbeoDaw4Cg2kDaas
    CgnwDadgCgl8DbesCeikDcg4E4058D4nwCtc4DclcCbxcDdk0CdhcDdhcCdhcDdhcCdhcDdhcCdhcDdhcCe00DdhcCdhc
    DdhcCdhcDdhcCdhcDcyoCe00DdhcCdhcDe00Cfk0DbeoCfk0DbeoCfk0DbeoCg2oDaw0Cg2oDaw0Cg2oDbeoCfk0Dbeo
    Cfk0DbeoCg2oDaw0Cg2oDaw0Cg2oDaw8Cg2oDbeoCfk0DbeoCfk0DbeoCg2oDayoCg00Daw0Cg2oDbeoCfk0DbhcCfhc
    DbeoCglcDadc | ; Asia/Jakarta = 25632 26400 27000 32400 28800 25200 |
    B.1mojyzkC6n1cD.4wdzjcC2mt6E1yg6C1i2mFa9uq | ; Asia/Jayapura = 33768 32400 34200 |
    B.1rajqmwC.66bqe0Bej1a | ; Asia/Jerusalem Asia/Tel_Aviv Israel = 8454 8440 7200 10800 14400 |
    B.zpx3i2C.jtxuoeD.bp5aigC91cD3hcC1gw0Db6oCfuoDb9cCfuoDcaoCeqoDcaoCeqoE165cD7hcC4ioDdeoCdmoDcao
    Cb9cDeo0CglcDbxcCdhcDcyoCbeoDk80C6qoDk80C6qoDjpcC8tcDfk0Caw0Dcm7sC798De04C9ukD3p9gC340D2qio
    C8aoDh40Cad8Dj6sC8akDgasCb6kDfk4CavwDhmsC9bwDf1gCbekDfk4Cbx8Dfk4Cbx8DfesCbjwDfesCb18DfxgCbjw
    DedgCdp8Dds4Cd3wDdusCcl8Dff0CbekDglgCcygDdpgCcfwDds4Ce7wDcqsCdzwDdusCcfwDe5kCe58DctgCdmkDdc4
    Ccl8DedgCe58DctgCdmkDdc4Ccl8Dew4CdmkDdc4Cd3w | 2013 7200 10800 3 4 4 93600 10 5 0 7200 ;
    Asia/Kabul = 16608 14400 16200 | B.14xtqjkC.spc1pc | ; Asia/Kamchatka = 38076 39600 43200 46800
    | B.1m33hz8C.3z045oD125ukCdjwDdhgCdjwDdhgCdjwDdk4CdhkDdhcCdhcDdhcCdhcDdhcCdhcDdhcCdhcDdhcCdhc
    DdhcCe00BqysC8aoD56kCdhcDdhcCdhcDdhcCdhcDdhcCdhcDe00Cfk0DbeoCfk0DbeoCfk0DbeoCg2oDaw0Cg2oDaw0
    Cg2oDbeoCfk0DbeoCfk0DbeoCg2oDaw0Cg2oDaw0Cg2oDaw0Cg2oDbeoCfk0DbeoCfk0BrhgCaw0 | ; Asia/Karachi =
    16092 19800 23400 18000 21600 | B.1dt61lwC.im3zt0B2cfwD4h6sE11yteDdh8E48ysDbbwEc84Det8 | ;
    Asia/Kashgar Asia/Urumqi = 21020 21600 | B.1orpn50 | ; Asia/Kathmandu Asia/Katmandu = 20476
    19800 20700 | B.1klejk4C.yg2lus | ; Asia/Khandyga = 32533 28800 32400 36000 39600 |
    B.1kkisx7C.5hl1jpD125ukCdjwDdhgCdjwDdhgCdjwDdk4CdhkDdhcCdhcDdhcCdhcDdhcCdhcDdhcCdhcDdhcCdhc
    DdhcCe00BqysC8aoD56kCdhcDdhcCdhcDdhcCdhcDdhcCdhcDe00Cfk0DbeoCfk0DbeoCfk0DbeoCg2oDaw0Cg2oDaw0
    Cg2oDbeoCfk0DbeoCfk0D4ygE6g4Dg2oEaw0Dg2oEaw0Dg2oEaw0Dg2oEbeoDfk0EbeoDfk0EbeoDg2oEaw0Dcl0C2cdo |
    ; Asia/Krasnoyarsk = 22286 21600 25200 28800 |
    B.1klnrhuC.5gg8j2D125ukCdjwDdhgCdjwDdhgCdjwDdk4CdhkDdhcCdhcDdhcCdhcDdhcCdhcDdhcCdhcDdhcCdhc
    DdhcCe00BqysC8aoD56kCdhcDdhcCdhcDdhcCdhcDdhcCdhcDe00Cfk0DbeoCfk0DbeoCfk0DbeoCg2oDaw0Cg2oDaw0
    Cg2oDbeoCfk0DbeoCfk0DbeoCg2oDaw0Cg2oDaw0Cg2oDaw0Cg2oDbeoCfk0DbeoCfk0DbeoCg2oDaw0C2oyk | ;
    Asia/Kuala_Lumpur = 24406 24925 25200 26400 27000 32400 28800 |
    B.1aoggiyC.2ax69lD.eeb94dE.4it32oF.8n3jcE2ol6Gra84 | ; Asia/Kuching = 26480 27000 28800 30000
    32400 |
    B.1nt6xlcC.3khwxkD211aC.4ohqoD.e5a9cC.4ohqoD.e3flcC.4ohqoD.e3flcC.4ohqoD.e3flcC.4ohqoD.e5a9c
    C.4ohqoD.e3flcC.4ohqoE.3ajlcC2ol8 | ; Asia/Kuwait = 11516 10800 | B.2093bt0 | ; Asia/Macao
    Asia/Macau = 27250 28800 32400 36000 |
    B.1codabyC.jdvyoyD9mkCevwDc5gCbbwB1i5kCfpcBbc0Cew0Bgo0CbeoBdhcCbc0Bfk0CbeoBfk0CbeoBfmoCbuoBfk0
    CbeoBfk0CadcBglcCadcBh40C9uoBh4eCadgBgl8CadgBgl8CadgBgl8CadgBh3wC9usBh3wC9usBh3wCadgBgl8Cadg
    Bgl8Ccg4Bdh4CdhkBdh4CdhkBdzwCdhgBdh8CdhgBdh8CdhgBdh8CdhgBdh8CdhgBdzwCdhgBdh8C56sBlrwCdhgBdh8
    CdhgBdh8C1xhgBbx8 | ; Asia/Magadan = 36192 36000 39600 43200 |
    B.1mutorkC.37a05cD125ukCdjwDdhgCdjwDdhgCdjwDdk4CdhkDdhcCdhcDdhcCdhcDdhcCdhcDdhcCdhcDdhcCdhc
    DdhcCe00BqysC8aoD56kCdhcDdhcCdhcDdhcCdhcDdhcCdhcDe00Cfk0DbeoCfk0DbeoCfk0DbeoCg2oDaw0Cg2oDaw0
    Cg2oDbeoCfk0DbeoCfk0DbeoCg2oDaw0Cg2oDaw0Cg2oDaw0Cg2oDbeoCfk0DbeoCfk0DbeoCg2oDaw0B2oykC14g8 | ;
    Asia/Makassar Asia/Ujung_Pandang = 28656 28800 32400 | B.1rajukwC.4u87w0B2px8 | ; Asia/Manila =
    -57368 29032 28800 32400 | B.hgcfmgC.sjc9igDrx5cC5mkD3oysC2z3wD6a84C3zwDh56sCd6kD9iisC53w | ;
    Asia/Muscat = 14064 14400 | B.1kleoi8 | ; Asia/Nicosia Europe/Nicosia = 8008 7200 10800 |
    B.1lkjmigC.rvhxygBdh8Cg04Bb18Ccw4BcykCe04BdjwCdesBdh8Ce04BcykCdhgBdh8CdhgBdh8CdhgBdh8CdhgBdzw
    CdhgBdh8CdhgBdh8CdhgBdh8CdhgBdh8CdhgBdh8CdhgBdzwCdhgBdh8CdhgBdh8CdhgBdh8CdhgBdh8CdhgBdh8Ce04
    Bdh8CdhgBdh8CdhgBfkc | 1999 7200 10800 3 5 0 10800 10 5 0 14400 ; Asia/Novokuznetsk = 20928
    21600 25200 28800 |
    B.1mus5vkC.37bu5cD125ukCdjwDdhgCdjwDdhgCdjwDdk4CdhkDdhcCdhcDdhcCdhcDdhcCdhcDdhcCdhcDdhcCdhc
    DdhcCe00BqysC8aoD56kCdhcDdhcCdhcDdhcCdhcDdhcCdhcDe00Cfk0DbeoCfk0DbeoCfk0DbeoCg2oDaw0Cg2oDaw0
    Cg2oDbeoCfk0DbeoCfk0DbeoCg2oDaw0Cg2oDaw0Cg2oDaw0Cg2oDbeoCfk0DbeoCfk0BrhgCaw0 | ;
    Asia/Novosibirsk = 19900 21600 25200 28800 |
    B.1kkhoo4C.5hmbcsD125ukCdjwDdhgCdjwDdhgCdjwDdk4CdhkDdhcCdhcDdhcCdhcDdhcCdhcDdhcCdhcDdhcCdhc
    DdhcCe00BqysC8aoD56kCdhcDdhcC450B9cgCdhcBdhcCdhcBdhcCe00Bfk0CbeoBfk0CbeoBfk0CbeoBg2oCaw0Bg2o
    Caw0Bg2oCbeoBfk0CbeoBfk0CbeoBg2oCaw0Bg2oCaw0Bg2oCaw0Bg2oCbeoBfk0CbeoBfk0CbeoBg2oCaw0B2oykC1b6s |
    ; Asia/Omsk = 17610 18000 21600 25200 |
    B.1kixprqC.5j6d16D125ukCdjwDdhgCdjwDdhgCdjwDdk4CdhkDdhcCdhcDdhcCdhcDdhcCdhcDdhcCdhcDdhcCdhc
    DdhcCe00BqysC8aoD56kCdhcDdhcCdhcDdhcCdhcDdhcCdhcDe00Cfk0DbeoCfk0DbeoCfk0DbeoCg2oDaw0Cg2oDaw0
    Cg2oDbeoCfk0DbeoCfk0DbeoCg2oDaw0Cg2oDaw0Cg2oDaw0Cg2oDbeoCfk0DbeoCfk0DbeoCg2oDaw0C2oyk | ;
    Asia/Oral = 12324 10800 18000 21600 14400 |
    B.1muu76kC.37a16cD125ugC14l8DdhgCdjwDdk4CdhkDdhcCdhcDdhcCdhcDdhcCdhcDdhcCdhcEqysCdhcEe00Cdhc
    EdhcC8aoEio0CdhcEdhcCdhcEdhcCdhcEdhcCe00Efk0CbeoEfk0CbeoEfk0CbeoEg2oCaw0Eg2oCaw0Eg2oCbeoEfk0
    CbeoEfk0Cbeo | ; Asia/Phnom_Penh = 25180 25590 25200 28800 32400 |
    B.1djp3xgC.2isicmD.gj25iuE1njwCco0 | ; Asia/Pontianak = 26240 27000 32400 28800 25200 |
    B.1rajwg0C.4tnu2wB2qqiD1yg6B1i2mDa9uqEi1by | ; Asia/Pyongyang = 30180 30600 32400 |
    B.1egm6qkC.1yh10cB25vhaC21mo | ; Asia/Qatar = 12368 14400 10800 | B.1kleptcC.rctnrk | ;
    Asia/Qostanay = 15268 14400 18000 21600 |
    B.1muu4wsC.37a0o4D125ukC14l8DdhgCdjwDdk4CdhkDdhcCdhcDdhcCdhcDdhcCdhcDdhcCdhcDdhcCdhcDdhcCe00
    BqysC8aoD56kCdhcDdhcCdhcDdhcCdhcDdhcCdhcDe00Cfk0DbeoCfk0DbeoCfk0DbeoCg2oDaw0Cg2oDaw0Cg2oDbeo
    Cfk0DbeoCfk0DbeoCez3o | ; Asia/Qyzylorda = 15712 14400 18000 21600 |
    B.1muu4kgC.37a10gD125ukC14l8DdhgCdjwDdk4CdhkDdhcCdhcDdhcCdhcDdhcCdhcDdhcCdhcDdhcCdhcDdhcCe00
    Dz9cCio0DdhcCdhcDdhcCdhcDdhcCdhcDe00Cfk0DbeoCfk0DbeoCfk0DbeoCg2oDaw0Cg2oDaw0Cg2oDbeoCfk0Dbeo
    Cfk0DbeoCb2l0 | ; Asia/Rangoon Asia/Yangon = 23087 23400 32400 | B.1klehjlC.bnjp3bB29bq | ;
    Asia/Riyadh = 11212 10800 | B.1ysf1dg | ; Asia/Sakhalin = 34248 32400 39600 43200 36000 |
    B.1d3n4xkC.kvnarcDqr6gCdjwDdhgCdjwDdhgCdjwDdk4CdhkDdhcCdhcDdhcCdhcDdhcCdhcDdhcCdhcDdhcCdhcDdhc
    Ce00EqysC8aoD56kCdhcDdhcCdhcDdhcCdhcDdhcCdhcDe00Cfk0EqysCbeoEfk0CbeoEg2oCaw0Eg2oCaw0Eg2oCbeo
    Efk0CbeoEfk0CbeoEg2oCaw0Eg2oCaw0Eg2oCaw0Eg2oCbeoEfk0CbeoEfk0CbeoEg2oCaw0E2oykC12dg | ;
    Asia/Samarkand = 16073 14400 18000 21600 |
    B.1muu4afC.37a1ahD125ukC14l8DdhgCdjwDdk4CdhkDdhcCdhcDdhcCdhcDdhcCdhcDdhcCdhcDdhcCdhcDdhcCe00
    DdhcCdhc | ; Asia/Seoul ROK = 30472 30600 32400 36000 34200 |
    B.1egm6igC.1yh18gDrd9aC7p8DeysCbx8DeysCbzwDhmsC9bwB1wg4EudeB9ekEitgB9ukEg2sBad8EglgBad8Eglg
    Bad8EglgBad8Co5gDjcliCbeoDfk0Cbeo | ; Asia/Singapore Singapore = 24925 25200 26400 27000 32400
    28800 | B.1czdmsjC.eeb94dD.4it32oE.8n3jcD2ol6Fra84 | ; Asia/Srednekolymsk = 36892 36000 39600
    43200 |
    B.1muto84C.37a0osD125ukCdjwDdhgCdjwDdhgCdjwDdk4CdhkDdhcCdhcDdhcCdhcDdhcCdhcDdhcCdhcDdhcCdhc
    DdhcCe00BqysC8aoD56kCdhcDdhcCdhcDdhcCdhcDdhcCdhcDe00Cfk0DbeoCfk0DbeoCfk0DbeoCg2oDaw0Cg2oDaw0
    Cg2oDbeoCfk0DbeoCfk0DbeoCg2oDaw0Cg2oDaw0Cg2oDaw0Cg2oDbeoCfk0DbeoCfk0DbeoCg2oDaw0C2oyk | ;
    Asia/Taipei ROC = 29160 28800 32400 |
    B.182iviwC.lsd1m0B5zpcChhcBaakCeisBet8CdhgBbbwCfpgBbbwCfpgBbbwCfpgBbbwCb9gBi58Cb6sBfukCb6sBfuk
    Cb6sBdjwCdk4BdjwCdhgBdjwCdhgBdjwCdhgBdjwCi2sB918Ci04B918C9e5gBdjwCdhgBdjwC2tesB6t8 | ;
    Asia/Tashkent = 16631 18000 21600 25200 |
    B.1muu3uxC.379yxzD125ukCdjwDdhgCdjwDdhgCdjwDdk4CdhkDdhcCdhcDdhcCdhcDdhcCdhcDdhcCdhcDdhcCdhc
    DdhcCe00Bqys | ; Asia/Tbilisi = 10751 10800 14400 18000 |
    B.1muu8e9C.h4tjynDi3mkCdjwDdhgCdjwDdhgCdjwDdk4CdhkDdhcCdhcDdhcCdhcDdhcCdhcDdhcCdhcDdhcCdhcDdhc
    Ce00BqysCdh4Bdh8CdhgBdh8CdhgDqykCdh8De04C16ikDbesCfjwDbesCg2kDaw4Cg2kDaw4Cg2kDbesCfjwDbesCfjw
    DbesC6qkB9cgCaw0 | ; Asia/Tehran Iran = 12344 12600 16200 14400 18000 |
    B.1snmv60C.lsvh0wDfs0EbheD9uoB79cCeleB8ikCdmsBdrwC7yysBaikCdhgBdmkCdesBdmkCdesBdmkCdesBdmkCdes
    BdmkCdhgBdmkCdesBdmkCdesBdmkCdesBdmkCdhgBdmkCdesBdmkCdesBdmkCdesBdmkCdhgBdmkC1vhgBdmkCdhgBdmk
    CdesBdmkCdesBdmkCdesBdmkCdhgBdmkCdesBdmkCdesBdmkCdesBdmkCdhgBdmkCdesBdmkCdesBdmkCdesBdmkCdhg
    BdmkCdesBdmk | ; Asia/Thimbu Asia/Thimphu = 21516 19800 21600 | B.1z0c038C.kxymno | ; Asia/Tokyo
    Japan = 33539 32400 36000 | B.13w7p0wC19caoB9uoCf1cBbxcChmoB9c0ChmoB9c0 | ; Asia/Tomsk = 20391
    21600 25200 28800 |
    B.1kkw0yhC.5h7z2fD125ukCdjwDdhgCdjwDdhgCdjwDdk4CdhkDdhcCdhcDdhcCdhcDdhcCdhcDdhcCdhcDdhcCdhc
    DdhcCe00BqysC8aoD56kCdhcDdhcCdhcDdhcCdhcDdhcCdhcDe00Cfk0DbeoCfk0DbeoCfk0DbeoCg2oDaw0Cg2oDaw0
    Cg2oDbeoC2aoBd9gCbeoBfk0CbeoBg2oCaw0Bg2oCaw0Bg2oCaw0Bg2oCbeoBfk0CbeoBfk0CbeoBg2oCaw0B2oykC171g |
    ; Asia/Ust-Nera = 34374 28800 32400 43200 39600 36000 |
    B.1kkiri2C.5hl2yuD125ukEdjoDdhgEdjwDdhgEdjwDdk4EdhkDdhcEdhcDdhcEdhcDdhcEdhcDdhcEdhcDdhcEdhc
    DdhcEe00FqysE8aoD56kEdhcDdhcEdhcDdhcEdhcDdhcEdhcDe00Efk0DbeoEfk0DbeoEfk0DbeoEg2oDaw0Eg2oDaw0
    Eg2oDbeoEfk0DbeoEfk0DbeoEg2oDaw0Eg2oDaw0Eg2oDaw0Eg2oDbeoEfk0DbeoEfk0DbeoEg2oDaw0Ecl0F2cdo | ;
    Asia/Vientiane = 24624 25590 25200 28800 32400 | B.1djp4cwC.2ishx6D.gj25iuE1njwCco0D16o8C61h8 |
    ; Asia/Vladivostok = 31651 32400 36000 39600 |
    B.1m3cw9pC.3yqvf7D125ukCdjwDdhgCdjwDdhgCdjwDdk4CdhkDdhcCdhcDdhcCdhcDdhcCdhcDdhcCdhcDdhcCdhc
    DdhcCe00BqysC8aoD56kCdhcDdhcCdhcDdhcCdhcDdhcCdhcDe00Cfk0DbeoCfk0DbeoCfk0DbeoCg2oDaw0Cg2oDaw0
    Cg2oDbeoCfk0DbeoCfk0DbeoCg2oDaw0Cg2oDaw0Cg2oDaw0Cg2oDbeoCfk0DbeoCfk0DbeoCg2oDaw0C2oyk | ;
    Asia/Yakutsk = 31138 28800 32400 36000 |
    B.1kkitzyC.5hl0gyD125ukCdjwDdhgCdjwDdhgCdjwDdk4CdhkDdhcCdhcDdhcCdhcDdhcCdhcDdhcCdhcDdhcCdhc
    DdhcCe00BqysC8aoD56kCdhcDdhcCdhcDdhcCdhcDdhcCdhcDe00Cfk0DbeoCfk0DbeoCfk0DbeoCg2oDaw0Cg2oDaw0
    Cg2oDbeoCfk0DbeoCfk0DbeoCg2oDaw0Cg2oDaw0Cg2oDaw0Cg2oDbeoCfk0DbeoCfk0DbeoCg2oDaw0C2oyk | ;
    Asia/Yekaterinburg = 14553 13505 14400 18000 21600 |
    B.1irpusnC.1kybx4D.5pfyv5E125ukDdjwEdhgDdjwEdhgDdjwEdk4DdhkEdhcDdhcEdhcDdhcEdhcDdhcEdhcDdhc
    EdhcDdhcEdhcDe00CqysD8aoE56kDdhcEdhcDdhcEdhcDdhcEdhcDdhcEe00Dfk0EbeoDfk0EbeoDfk0EbeoDg2oEaw0
    Dg2oEaw0Dg2oEbeoDfk0EbeoDfk0EbeoDg2oEaw0Dg2oEaw0Dg2oEaw0Dg2oEbeoDfk0EbeoDfk0EbeoDg2oEaw0D2oyk |
    ; Asia/Yerevan = 10680 10800 14400 18000 |
    B.1muu8g8C.h4tjwoDi3mkCdjwDdhgCdjwDdhgCdjwDdk4CdhkDdhcCdhcDdhcCdhcDdhcCdhcDdhcCdhcDdhcCdhcDdhc
    Ce00BqysCdhcBdhcCdhcBdhcCdhcBdhcCdhcD1ifwCfk0DbeoCfk0DbeoCg2oDaw0Cg2oDaw0Cg2oDbeoCfk0DbeoCfk0
    DbeoCg2oDaw0Cg2oDaw0Cg2oDaw0Cg2oDbeoCfk0DbeoCfk0DbeoCg2oDaw0Cg2o | ; Atlantic/Azores = -6160
    -6872 -7200 -3600 0 3600 |
    B.11t2ys0C.em124wD3cqkCa2sD8w0CgvwDa5gCgvwDa5gCgvwDa84CgvwDa5gCgvwD1vs0Cco0D15hcCcg0De00Ccyo
    DeioCcyoDeioCcg0D15hcCcg0DdhcCdhcD14yoCdhcDcyoCe00DeioCcg0DdhcCdhcDcyoCe00DeioCg2oD79cCgqoDdc0
    Cdk0DbuoE33wD8aoC56sDadcE2l8D9uoC4o4D9uoE33wD9c0C4o4D9uoE33wD9c0C4o4DbxcCdhcDdhoCdhcDdhcCdhc
    DdhcCdhcDdhcCdhcDdhcCe00DdhcCdhcDdhcCdhcDdhcCdhcDdhcCdhcDdhcCe00DdhcCdhcDdhcCdhcDdhcCdhcDdhc
    CdhcDdhcCdhcDdhcCe00DdhcCdhcDdhcCdhcDdhcCdhcDdhcEc0foDdhcEdhcDdhcEdhcDe00EdhcDdhcEdhcDdhcEdhc
    DdhcEdhcDdhcEdhcDdhcEdhcDe00EdhcDdhcEdhcDdhcE6qsF6qkE600D7hcEdhcDdhcEdhcDdhc | 1996 -3600 0 3 5
    0 0 10 5 0 3600 ; Atlantic/Bermuda = -15558 -11958 -14400 -10800 |
    B.1j5zgp2Ad6kBeg4Abh8C8hkcD.69z5ruCkqkDbesCgl8D9usChmkD9c4ChmkD15hgC8t8Dio4C7rwDj6sC7rwDjpg
    C798DjpgC798DjpgC7rwD2slgCbekDd5esCdh8DdhgCdh8DdhgCdzwDcysCdzwDdhgCdh8DdhgCdh8DdhgCdh8DdhgCdh8
    DdhgCdzwDcysCdzwDdhgCdh8DdhgCdh8DdhgCdh8DbxgCf18DbxgCfjwDbesCfjwDbesCfjwDbxgCf18DbxgCf18Dbxg
    CfjwDbesCfjwDbesCfjwDbxgCf18DbxgCf18DbxgCf18DbxgCfjwDbesCfjwDbesCfjwDbxgCf18DbxgCf18DbxgCfjw
    DbesCfjwDbesCfjw | 2007 -14400 -10800 3 2 0 7200 11 1 0 7200 ; Atlantic/Canary = -3696 -3600 0
    3600 |
    B.1lq20vkC.ctvupcDp6t4CcysDdhcCdhcDdhcCdhcDdhcCdhcDdhcCe00DdhcCdhcDdhcCdhcDdhcCdhcDdhcCdhcDdhc
    CdhcDdhcCe00DdhcCdhcDdhcCdhcDdhcCdhcDdhcCdhcDdhcCdhc | 1996 0 3600 3 5 0 3600 10 5 0 7200 ;
    Atlantic/Cape_Verde = -5644 -7200 -3600 | B.1gf40wwCn1pcB2cfwCmmoc | ; Atlantic/Faeroe
    Atlantic/Faroe = -1624 0 3600 |
    B.1ecgva0C.127keuwBdhcCdhcBdhcCdhcBdhcCdhcBe00CdhcBdhcCdhcBdhcCdhcBdhcCdhcBdhcCdhcBdhcCdhcBe00
    CdhcBdhcCdhcBdhcCdhcBdhcCdhcBdhcCdhcBdhc | 1996 0 3600 3 5 0 3600 10 5 0 7200 ; Atlantic/Madeira
    = -4056 -3600 0 3600 |
    B.1gf3y4wC3cqkBa2sC8w0BgvwCa5gBgvwCa5gBgvwCa84BgvwCa5gBgvwC1vs0Bco0C15hcBcg0Ce00BcyoCeioBcyo
    CeioBcg0C15hcBcg0CdhcBdhcC14yoBdhcCcyoBe00CeioBcg0CdhcBdhcCcyoBe00CeioBg2oC79cBgqoCdc0Bdk0Cbuo
    D33wC8aoB56sCadcD2l8C9uoB4o4C9uoD33wC9c0B4o4C9uoD33wC9c0B4o4CbxcBdhcCdhoBdhcCdhcBdhcCdhcBdhc
    CdhcBdhcCdhcBe00CdhcBdhcCdhcBdhcCdhcBdhcCdhcBdhcCdhcBe00CdhcBdhcCdhcBdhcCdhcBdhcCdhcBdhcCdhc
    BdhcCdhcBe00CdhcBdhcCdhcBdhcCdhcBdhcCdhcDc0ycCcyoDdhcCdhcDdhcCe00DdhcCdhcDdhcCdhgDdhcCdhcDdhc
    CdhcDdhcCdhcDdhcCe00DdhcCdhcDdhcCdhcDdhcCdhcDdhcCdhcDdhcCdhc | 1996 0 3600 3 5 0 3600 10 5 0
    7200 ; Atlantic/Reykjavik Iceland = -5280 -3600 0 |
    B.1ebyffkC.4rpd9cBi04C918BjxgC73wBjxgC10akB71gCdeykBdhkC8tgBinwC8tcBi5cC9c0Bh40C9uoBh40C9uo
    Bh40C9uoBhmoC9c0BhmoCbxcBf1cCbxcBf1cCbxcBfk0CbeoBf1cCbxcBfk0CbxcBf1cCbxcBf1cCbxcBf1cCbxcBf1c
    CbxcBfk0CbxcBf1cCbxcBf1cCbxcBf1cCbxcBf1cCbxcBf1cCbxcBfk0CbxcBf1cCbxcBf1cCbxcBf1cCbxcBf1cCbxc
    Bfk0Cbxc | ; Atlantic/South_Georgia = -8768 -7200 | B.14xua4g | ; Atlantic/St_Helena = -1368 0 |
    B.20rvj2w | ; Atlantic/Stanley = -13884 -14400 -10800 -7200 |
    B.1girnekC.dbvxqcBcykCe04BcykCeisBcykCe04BcykCe04BcykCe04B73wCub44DavwCg2kDadgCgl8Bqg4Caw4Bg2k
    Caw4Bg2kCaw4Bg2kCaw4Bgl8CadgBgl8Caw4Bg2kCaw4Bg2kCaw4Bg2kCaw4Bg2kCaw4Bgl8Caw4Bg2kCaw4Bg2kCaw4
    Bg2kCaw4Bg2kCaw4Bg2sCadgBh3wC9usBh3wCadgBgl8CadgBgl8CadgBgl8CadgBgl8CadgBh3wCadgBgl8CadgBgl8
    Cadg | ; Australia/ACT Australia/Canberra Australia/NSW Australia/Sydney = 36292 36000 39600 |
    B.17lc7csC.bfqds4B65cCim80B6g0CdhcBdhcCe00BcyoCkqo0B8tcCi5cB9c0ChmoB9c0ChmoB9c0ChmoB9uoChmo
    B9c0ChmoB9c0ChmoB9c0ChmoB9c0ChmoB9c0ChmoBbxcCfk0B9c0ChmoB9c0ChmoB9c0ChmoBadcCg2oBaw0CglcBaw0
    CglcBadcCglcB9c0ChmoB9c0ChmoB9c0ChmoB9uoChmoB9c0ChmoB9c0ChmoBbeoCfk0BbeoCfk0BbeoCfk0BbeoCg2o
    Baw0CbeoBfk0Cg2oBbeoCfk0BbeoCfk0BbeoCg2oBaw0Cg2oBbeoCfk0Baw0Cg2o | 2008 36000 39600 10 1 0 7200
    4 1 0 10800 ; Australia/Adelaide Australia/South = 33260 32400 34200 37800 |
    B.17lc9p0C.27qdzwDda2uC65cDim80C6g0DdhcCdhcDe00CcyoDkqo0C8tcDi5cC9c0DhmoC9c0DhmoC9c0DhmoC9uo
    DhmoC9c0DhmoC9c0DhmoC9c0DhmoC9c0DhmoC9c0DhmoC9uoDhmoC9c0DhmoC9c0DhmoC9c0DhmoCadcDg2oCaw0Dglc
    Caw0DglcCadcDglcCadcDglcC9c0DhmoCaw0Dg2oC9uoDhmoCadcDglcCaw0Dg2oCbeoDfk0CbeoDfk0CbeoDfk0Cbeo
    Dg2oCaw0Dg2oCaw0Dg2oCbeoDfk0CbeoDfk0CbeoDg2oCaw0Dg2oCbeoDfk0Caw0Dg2o | 2008 34200 37800 10 1 0
    7200 4 1 0 10800 ; Australia/Brisbane Australia/Queensland = 36728 36000 39600 |
    B.17jqscoC.bhbss8B65cCim80B6g0CdhcBdhcCe00BcyoCkqo0B8tcCda2oB9c0ChmoB9c0ChmoB9c0 | ;
    Australia/Broken_Hill Australia/Yancowinna = 33948 36000 32400 34200 37800 |
    B.17lc95wC.t9nr0D20o4Eda2uD65cEim80D6g0EdhcDdhcEe00DcyoEkqo0D8tcEi5cD9c0EhmoD9c0EhmoD9c0Ehmo
    D9uoEhmoD9c0EhmoD9c0EhmoD9c0EhmoD9c0EhmoD9c0EhmoDbxcEfk0D9c0EhmoD9c0EhmoD9c0EhmoDadcEg2oDaw0
    EglcDaw0EglcDadcEglcD9c0EhmoD9c0EhmoD9c0EhmoD9uoEhmoD9c0EhmoD9c0EhmoDbeoEfk0DbeoEfk0DbeoEfk0
    DbeoEg2oDaw0Eg2oDaw0Eg2oDbeoEfk0DbeoEfk0DbeoEg2oDaw0Eg2oDbeoEfk0Daw0Eg2o | 2008 34200 37800 10 1
    0 7200 4 1 0 10800 ; Australia/Currie Australia/Hobart Australia/Tasmania = 35356 36000 39600 |
    B.17w8tesC.b03ee4BcyoCg2oB9c0ChmoB9c0Ch5uoB6g0CdhcBdhcCe00BcyoCho80BdhcCfk0B9uoCh40B9uoCh40
    BadcCh40B8tcCi5cB9c0ChmoB9c0ChmoB9c0ChmoB9uoChmoB9c0ChmoB9c0ChmoB9c0ChmoB9c0ChmoB9c0ChmoBbeo
    Cg2oBaw0Cg2oB9c0ChmoB9c0ChmoB9c0Ch40Baw0CglcBaw0CglcBadcCglcBadcCglcBbeoCe00BcyoCe00BcyoCe00
    BcyoCe00BcyoCe00BdhcCe00BcyoCe00BcyoCe00BcyoCe00BcyoCbeoBfk0CeioBcyoCe00BcyoCe00BcyoCe00Bcyo
    Ce00BdhcCdhcBcyoCeio | 2008 36000 39600 10 1 0 7200 4 1 0 10800 ; Australia/Darwin
    Australia/North = 31400 32400 34200 37800 | B.17lcb4oC.27qck8Dda2uC65cDim80C6g0DdhcCdhcDe00Ccyo
    | ; Australia/Eucla = 30928 31500 35100 |
    B.180xfhsC.b05944B65cCim80B6g0CdhcBdhcCnqioB9c0C6idcB9c0C5sg0B7s0Cb39cB8aoCg2oBbeoCfk0Bbeo | ;
    Australia/LHI Australia/Lord_Howe = 38180 36000 37800 41400 39600 |
    B.17lc5wcC.18x8f0kDhmuC9ukDhmsC9bwDhmsC9bwDhmsC9bwEhmsCadaEg2qCavyEgleCavyEgleCadaEgleC9byEhmq
    C9byEhmqC9byEhmqC9umEhmqC9byEhmqC9byEhmqCbemEfk2CbemEfk2CbemEfk2CbemEg2qCavyEbeqCfjyEg2qCbem
    Efk2CbemEfk2CbemEg2qCavyEg2qCbemEfk2CavyEg2q | 2008 37800 39600 10 1 0 7200 4 1 0 7200 ;
    Australia/Lindeman = 35756 36000 39600 |
    B.17jqt3oC.bhbs18B65cCim80B6g0CdhcBdhcCe00BcyoCkqo0B8tcCda2oB9c0ChmoB9c0ChmoB9c0ChmoB9uoChmo
    B9c0 | ; Australia/Melbourne Australia/Victoria = 34792 36000 39600 |
    B.17lc8igC.bfqcmgB65cCim80B6g0CdhcBdhcCe00BcyoCkqo0B8tcCi5cB9c0ChmoB9c0ChmoB9c0ChmoB9uoChmo
    B9c0ChmoB9c0ChmoB9c0ChmoB9c0ChmoB9c0ChmoB9uoChmoB9c0ChmoB9c0ChmoB9c0ChmoBadcCg2oBaw0Cg2oBbeo
    CglcBadcCglcBadcCglcB9c0ChmoB9c0ChmoB9uoChmoB9c0ChmoBaw0Cg2oBbeoCfk0BbeoCfk0BbeoCfk0BbeoCg2o
    Baw0CbeoBfk0Cg2oBbeoCfk0BbeoCfk0BbeoCg2oBaw0Cg2oBbeoCfk0Baw0Cg2o | 2008 36000 39600 10 1 0 7200
    4 1 0 10800 ; Australia/Perth Australia/West = 27804 28800 32400 |
    B.180xhwkC.b058scB65cCim80B6g0CdhcBdhcCnqioB9c0C6idcB9c0C5sg0B7s0Cb39cB8aoCg2oBbeoCfk0Bbeo | ;
    CET = 3600 7200 |
    B.1iohcgwAbc4BelkAbeoBfk0AbeoBg6tcA1y00Baw0Ae00BdhcAdhcBdhcAcdcBnphcAcyoBe00AdhcBdhcAdhcBe00
    AcyoBdhcAdhcBdhcAdhcBdhcAdhcBdhcAe00BdhcAdhcBdhcAdhcBdhcAdhcBdhcAdhcBdhcAdhcBdhcAe00BdhcAdhc
    BdhcAdhcBdhcAdhcBdhcAdhcBdhcAdhc | 1996 3600 7200 3 5 0 7200 10 5 0 10800 ; CST6CDT = -21600
    -18000 |
    B.1jogk8wAfjwBbesAfjwBgr44A2qfwBg7usAdh8BdhgAdh8BdhgAdh8BdhgAdh8BdhgAdzwBdhgAdh8BdhgAdh8B56s
    AlrwB8tgAi58BdhgAdzwBcysAdzwBdhgAdh8BdhgAdh8BdhgAdh8BdhgAdh8BdhgAdzwBcysAdzwBdhgAdh8BdhgAdh8
    BdhgAdh8BbxgAf18BbxgAfjwBbesAfjwBbesAfjwBbxgAf18BbxgAf18BbxgAfjwBbesAfjwBbesAfjwBbxgAf18Bbxg
    Af18BbxgAf18BbxgAfjwBbesAfjwBbesAfjwBbxgAf18BbxgAf18BbxgAfjwBbesAfjwBbesAfjw | 2007 -21600
    -18000 3 2 0 7200 11 1 0 7200 ; Chile/EasterIsland Pacific/Easter = -26248 -25200 -21600 -18000
    | B.1r7g2a0C.ivmeuwBavwChmsB9bwCeisBbekCfk4BbekCg2sBavwCf1gBbx8Cg2sBavwCg2sBbekCfk4BbekCfk4Bbek
    Cg2sBavwCg2sBavwCg2sBbekCfk4DqyoCbekDfk4CbekDg2sCavwDg2sCavwDg2sCdh8DdhgCbekDfk4CbekDg2sCavw
    De04CcykDg2sCbekDfk4CbekDfk4CbekDfk4CbekDg2sCavwDg2sCcfwDeisCbekDeisCdzwDe04CbekDg2sCavwDg2s
    CavwDg2sCavwDg2sCbekDfk4CbekDfk4CbekDg2sCavwDg2sCcfwDeisCbekDfk4CcykDe04CfjwD7s4CinwD9c4Chmk
    D9usCh3wD9usC19mkD6qsCk7wD6qsCk7wD6qsChmkDbesCfjwDbesCfjwDbesCfjwDbxg | 2023 -21600 -18000 9 1 6
    79200 4 1 6 79200 ; EET = 7200 10800 |
    B.2eh4zgwAcyoBe00AdhcBdhcAdhcBe00AcyoBdhcAdhcBdhcAdhcBdhcAdhcBdhcAe00BdhcAdhcBdhcAdhcBdhcAdhc
    BdhcAdhcBdhcAdhcBdhcAe00BdhcAdhcBdhcAdhcBdhcAdhcBdhcAdhcBdhcAdhc | 1996 7200 10800 3 5 0 10800
    10 5 0 14400 ; EST = -18000 | | ; EST5EDT = -18000 -14400 |
    B.1joghgwAfjwBbesAfjwBgr44A2qfwBg7usAdh8BdhgAdh8BdhgAdh8BdhgAdh8BdhgAdzwBdhgAdh8BdhgAdh8B56s
    AlrwB8tgAi58BdhgAdzwBcysAdzwBdhgAdh8BdhgAdh8BdhgAdh8BdhgAdh8BdhgAdzwBcysAdzwBdhgAdh8BdhgAdh8
    BdhgAdh8BbxgAf18BbxgAfjwBbesAfjwBbesAfjwBbxgAf18BbxgAf18BbxgAfjwBbesAfjwBbesAfjwBbxgAf18Bbxg
    Af18BbxgAf18BbxgAfjwBbesAfjwBbesAfjwBbxgAf18BbxgAf18BbxgAfjwBbesAfjwBbesAfjw | 2007 -18000
    -14400 3 2 0 7200 11 1 0 7200 ; Eire Europe/Dublin = -1521 2079 0 3600 |
    B.1ipiq35C9uoD.9pytrCc00DdxcCe2oDdeoCdk0DdeoCfmoDbuoCdk0Dcw0CeioDeioCaw0Dfk0CbxcDfk0Ccg0Deio
    Ccg0De00CcyoDf1cCcg0DeioCcg0De00CcyoDeioCcg0DeioCcg0De00CdhcDeioCcg0De00CcyoDeioCcg0DeioCcg0
    De00CcyoDeioCg2oD79cC4yw0DbxcCh40Dcg0CeioDbeoCfk0Dcg0Ce00DcyoCe00DdhcCe00DcyoCcg0De00CcyoDeio
    Ccg0Df1cCcg0De00CcyoDeioCcg0DeioCcg0De00CcyoDcyoCg2oDaw0Cg2oDbeoCfk0Daw0Cg2oDaw0Cg2oDaw0Cg2o
    Daw0CglcD8aoC2s2oDadcCglcDadcCglcDadcCglcDadcCglcDaw0Cg2oDaw0Cg2oDaw0CglcDadcCglcDadcCglcDbek
    Cfk0DbeoCfk0DbeoCfk0DbeoCg2oDbeoCfk0DbeoCfk0DbeoCfk0DbeoCfk0DbeoCg2oDaw0Cg2oDbeoCfk0DbeoCfk0
    DbeoCfk0DbeoCfk0DbeoCfk0 | 1996 0 3600 3 5 0 3600 10 5 0 7200 ; Etc/GMT Etc/GMT+0 Etc/GMT-0
    Etc/GMT0 Etc/Greenwich GMT GMT+0 GMT-0 GMT0 Greenwich = 0 | | ; Etc/GMT+1 = -3600 | | ;
    Etc/GMT+10 = -36000 | | ; Etc/GMT+11 = -39600 | | ; Etc/GMT+12 = -43200 | | ; Etc/GMT+2 = -7200
    | | ; Etc/GMT+3 = -10800 | | ; Etc/GMT+4 = -14400 | | ; Etc/GMT+5 = -18000 | | ; Etc/GMT+6 =
    -21600 | | ; Etc/GMT+7 = -25200 | | ; Etc/GMT+8 = -28800 | | ; Etc/GMT+9 = -32400 | | ;
    Etc/GMT-1 = 3600 | | ; Etc/GMT-10 = 36000 | | ; Etc/GMT-11 = 39600 | | ; Etc/GMT-12 = 43200 | |
    ; Etc/GMT-13 = 46800 | | ; Etc/GMT-14 = 50400 | | ; Etc/GMT-2 = 7200 | | ; Etc/GMT-3 = 10800 | |
    ; Etc/GMT-4 = 14400 | | ; Etc/GMT-5 = 18000 | | ; Etc/GMT-6 = 21600 | | ; Etc/GMT-7 = 25200 | |
    ; Etc/GMT-8 = 28800 | | ; Etc/GMT-9 = 32400 | | ; Etc/UCT Etc/UTC Etc/Universal Etc/Zulu UCT UTC
    Universal Zulu = 0 | | ; Europe/Amsterdam = 1172 4772 4800 1200 7200 3600 |
    B.1iohh4cAbbwBeloAbeoBeioAdhcBe00AcyoBe00AcyoBe00AcyoBdeoAeioBhhcA9hcBcyoAe00Bi00A8yoBgioAag0
    BglcAadcBgqoAaqoBgaoAao0BgdcAalcBgg0AaioBh40A9uoBgo0AatcBg80AaqoBgaoAao0Bgg0AaioBh1cC2yc
    D.4uaz8CglcDadcCgo0DatcEgd4F.1aarpcEaw0Fe00EdhcFdhcEdhcFcdcEnphcFcyoEe00FdhcEdhcFdhcEe00Fcyo
    EdhcFdhcEdhcFdhcEdhcFdhcEdhcFe00EdhcFdhcEdhcFdhcEdhcFdhcEdhcFdhcEdhcFdhcEdhcFe00EdhcFdhcEdhc
    FdhcEdhcFdhcEdhcFdhcEdhcFdhc | 1996 3600 7200 3 5 0 7200 10 5 0 10800 ; Europe/Andorra = 364 0
    3600 7200 |
    B.1aogz2sC.nvgqy4DsxmsCdhcDdhcCdhcDdhcCdhcDdhcCdhcDdhcCdhcDdhcCe00DdhcCdhcDdhcCdhcDdhcCdhcDdhc
    CdhcDdhcCdhc | 1996 3600 7200 3 5 0 7200 10 5 0 10800 ; Europe/Astrakhan = 11532 10800 14400
    18000 |
    B.1musd4kC.37bv8cD125ukCdjwDdhgCdjwDdhgCdjwDdk4CdhkDdhcCdhcDdhcCdhcDdhcCdhcDdhcCdhcBqysCdhc
    Be00CdhcB14g0CdhcBdhcCdhcBdhcCdhcBdhcCe00Bfk0CbeoBfk0CbeoBfk0CbeoBg2oCaw0Bg2oCaw0Bg2oCbeoBfk0
    CbeoBfk0CbeoBg2oCaw0Bg2oCaw0Bg2oCaw0Bg2oCbeoBfk0CbeoBfk0CbeoBg2oCaw0B2oykC12dg | ; Europe/Athens
    = 5692 7200 10800 3600 |
    B.1it0ccgC.8bjasgB458C6glgB1p8D14tsBaygDdx8Bdk4C66ykB96kCgv44Bgw0Ca5kBdhcCcyoBd1cCdxcBcysCe0o
    BddsCdp8BdbwCdhsBdhcCdhcBdhcCdhcBdhcCdhcBe00CdhcBdhcCdhcBdhcCdhcBdhcCdhcBdhcCdhcBdhcCdhcBe00
    CdhcBdhcCdhcBdhcCdhcBdhcCdhcBdhcCdhcBdhc | 1996 7200 10800 3 5 0 10800 10 5 0 14400 ;
    Europe/Belfast Europe/London GB GB-Eire = -75 0 3600 7200 |
    B.iz3fezC.zqf9hxB9uoCe00Bc00CdxcBe2oCdeoBdk0CdeoBfmoCbuoBdk0Ccw0BeioCeioBaw0Cfk0BbxcCfk0Bcg0
    CeioBcg0Ce00BcyoCf1cBcg0CeioBcg0Ce00BcyoCeioBcg0CeioBcg0Ce00BdhcCeioBcg0Ce00BcyoCeioBcg0Ceio
    Bcg0Ce00BcyoCeioBg2oC79cDw58C79cDhmoC9c0DhmoC9uoDh40Ccg0DelcC7pcB684Ce00BcyoCbxcD22kC8tcB684
    C9uoBh40CbeoBfk0Ccg0Be00CcyoBe00CdhcBe00CcyoBcg0Ce00BcyoCeioBcg0Cf1cBcg0Ce00BcyoCeioBcg0Ceio
    Bcg0Ce00BcyoCcyoBg2oCaw0Bg2oCbeoBfk0Caw0Bg2oCaw0Bg2oCaw0Bg2oCaw0BglcC8aoB2s2oCadcBglcCadcBglc
    CadcBglcCadcBglcCaw0Bg2oCaw0Bg2oCaw0BglcCadcBglcCadcBglcCbekBfk0CbeoBfk0CbeoBfk0CbeoBg2oCbeo
    Bfk0CbeoBfk0CbeoBfk0CbeoBfk0CbeoBg2oCaw0Bg2oCbeoBfk0CbeoBfk0CbeoBfk0CbeoBfk0CbeoBfk0 | 1996 0
    3600 3 5 0 3600 10 5 0 7200 ; Europe/Belgrade Europe/Podgorica = 4920 3600 7200 |
    B.11t2q88C.twhnkoB15n0Caw0Be00CdhcBdhcCg5cB9pcCs79cBdhcCdhcBe00CdhcBdhcCdhcBdhcCdhcBdhcCdhc
    BdhcCdhcBdhcCdhcBe00CdhcBdhcCdhcBdhcCdhcBdhcCdhcBdhcCdhcBdhc | 1996 3600 7200 3 5 0 7200 10 5 0
    10800 ; Europe/Berlin = 3208 3600 7200 10800 |
    B.16mubjsC.c1n0x4Bbc4CelkBbeoCfk0BbeoCg6tcB1y00Caw0Be00CdhcBdhcCdhcD3ukC940B42sCaw0Bd1cCdes
    D2l8C3mkB79gCeioBcg0Ce00BcyoCmxhcBcyoCdhcBdhcCdhcBdhcCdhcBdhcCdhcBe00CdhcBdhcCdhcBdhcCdhcBdhc
    CdhcBdhcCdhcBdhcCdhcBe00CdhcBdhcCdhcBdhcCdhcBdhcCdhcBdhcCdhcBdhc | 1996 3600 7200 3 5 0 7200 10
    5 0 10800 ; Europe/Bratislava Europe/Prague = 3464 3600 7200 0 |
    B.15uni0oC.cttug8Bbc4CelkBbeoCfk0BbeoCg6tcB1y00Caw0Be00CdhcBdhcCdhcBdhcCg2oBbc0D45gB680C458
    Bcg0CeioBcg0CdxcBd1cCm600BdhcCe00BcyoCdhcBdhcCdhcBdhcCdhcBdhcCdhcBe00CdhcBdhcCdhcBdhcCdhcBdhc
    CdhcBdhcCdhcBdhcCdhcBe00CdhcBdhcCdhcBdhcCdhcBdhcCdhcBdhcCdhcBdhc | 1996 3600 7200 3 5 0 7200 10
    5 0 10800 ; Europe/Brussels = 1050 0 3600 7200 |
    B.165m0owCgx9cD13zwCbc0DelkCbeoDfk0CbeoB46gC86oBg2oC9uoBio0CaioBgo0Cb6oBeioCeioBcg0CcyoBe00
    CdhcBdhcCeioBcg0Ce00BcyoCeioBcz0CeioBcg0Ce00BcyoCeioBcg0CdhcBdhcCcyoBeioCdhcBdhcCcyoBe00Ceio
    Bcg0CdhcBdhcCcyoBe00CeioBg2oC79cD6aoC1ud8Daw0Ce00DdhcCcdcDelcCcdcDi5cCag0Dmww0CcyoDe00CdhcDdhc
    CdhcDe00CcyoDdhcCdhcDdhcCdhcDdhcCdhcDdhcCe00DdhcCdhcDdhcCdhcDdhcCdhcDdhcCdhcDdhcCdhcDdhcCe00
    DdhcCdhcDdhcCdhcDdhcCdhcDdhcCdhcDdhcCdhc | 1996 3600 7200 3 5 0 7200 10 5 0 10800 ;
    Europe/Bucharest = 6264 7200 10800 |
    B.1qmld6wC.fj8m0B9xcCdhcBdhcCe00BdhcCdhcBdhcCdhcBdhcCdhcBdhcCdhcBdhcCdhcBdhcCtstcB9bwCe00Bcys
    CdhkBdhcCdhcBdhcCdhcBdhcCdhcBe00CdhcBdhcCdhcBdhcCdhcBdhcCdhcBdhcCdhcBdhcCdhcBe00Cdh4BdhcCdhc
    BdhcCdhcBdhcCdhcBdh8CdhgBdh8Ce04Bfjw | 1997 7200 10800 3 5 0 10800 10 5 0 14400 ;
    Europe/Budapest = 4580 3600 7200 |
    B.15dgyhoC.db0dz8Bbc4CelkBbeoCfk0BbeoCfmoBbc0Cf1cBcg0Cffx0B16gcCaw0Be00CdhcBdhcCfp0Bdk4Cb48
    Be2kCdesBdhcCdhcBdhcCe00BcyoC3hh4B9ukCh4cB9uoCi5cB8tcCi5cB8tcCgx94BcyoCdhcBdhcCdhcBdhcCdhcBdhc
    CdhkBe00CdhcBdhcCdhcBdhcCdhcBdhcCdhcBdhcCdhcBdhcCdhcBe00CdhcBdhcCdhcBdhcCdhcBdhcCdhcBdhcCdhc
    Bdhc | 1996 3600 7200 3 5 0 7200 10 5 0 10800 ; Europe/Busingen Europe/Zurich = 2048 1786 3600
    7200 |
    B.lwr340C.lc05jaD.ohmxdmCbeoDfk0CbeoDsx44CdhcDdhcCdhcDdhcCdhcDdhcCe00DdhcCdhcDdhcCdhcDdhcCdhc
    DdhcCdhcDdhcCdhcDdhcCe00DdhcCdhcDdhcCdhcDdhcCdhcDdhcCdhcDdhcCdhc | 1996 3600 7200 3 5 0 7200 10
    5 0 10800 ; Europe/Chisinau Europe/Tiraspol = 6920 6900 6264 7200 10800 3600 14400 |
    B.zpx4ooC.jw96okD.70f1toE.fj8m0D9xcEdhcDdhcEe00DdhcEdhcDdhcEdhcDdhcEdhcDdhcEdhcDdhcEdhcDdhc
    EnmoDovwFz1sDaw0Fe00DdhcEal0GriakEdjwGdhgEdjwGdhgEdjwGdk4EdhkGdhcEdhcGdhcEdhcGdhcEdhcGdhcEdhc
    GdhcEdhcGdhcE33wDaw8EdhcDdhcEdh4Ddh8EdhgDdh8EdhgDdh8EdhgDdh8Ee04DfjwEbf0Dfk0EbeoDfk0EbeoDg2o
    Eaw0Dg2oEaw0Dg2oEbeoDfk0EbeoDfk0EbeoDg2oEaw0Dg2oEaw0Dg2oEaw0Dg2oEbeoDfk0EbeoDfk0EbeoDg2oEaw0
    Dg2oEaw0Dg2oEbeoDfk0EbeoDfk0EbeoDfk0EbeoDg2oEaw0Dg2oEaw0Dg2oEbeoDfk0EbeoDfk0EbeoDg2o | 2022 7200
    10800 3 5 0 10800 10 5 0 14400 ; Europe/Copenhagen = 3020 3600 7200 |
    B.170zl10C.bo7orwBaakChr1kB1uqwCaw0Be00CdhcBdhcCdhcBa00Cj6oB940Ci5cB79cCk80B6qoCnslcBcyoCdhc
    BdhcCdhcBdhcCdhcBdhcCdhcBe00CdhcBdhcCdhcBdhcCdhcBdhcCdhcBdhcCdhcBdhcCdhcBe00CdhcBdhcCdhcBdhc
    CdhcBdhcCdhcBdhcCdhcBdhc | 1996 3600 7200 3 5 0 7200 10 5 0 10800 ; Europe/Gibraltar = -1284 0
    3600 7200 |
    B.100xlokC.iol38cB9uoCe00Bc00CdxcBe2oCdeoBdk0CdeoBfmoCbuoBdk0Ccw0BeioCeioBaw0Cfk0BbxcCfk0Bcg0
    CeioBcg0Ce00BcyoCf1cBcg0CeioBcg0Ce00BcyoCeioBcg0CeioBcg0Ce00BdhcCeioBcg0Ce00BcyoCeioBcg0Ceio
    Bcg0Ce00BcyoCeioBg2oC79cDw58C79cDhmoC9c0DhmoC9uoDh40Ccg0DelcC7pcB684Ce00BcyoCbxcD22kC8tcB684
    C9uoBh40CbeoBfk0Ccg0Be00CcyoBe00CdhcBe00CcyoBcg0Ce00BcyoCeioBcg0Cf1cBcg0Ce00Dir3wCdhcDdhcCdhc
    DdhcCe00DdhcCdhcDdhcCdhcDdhcCdhcDdhcCdhcDdhcCdhcDdhcCe00DdhcCdhcDdhcCdhcDdhcCdhcDdhcCdhcDdhc
    Cdhc | 1996 3600 7200 3 5 0 7200 10 5 0 10800 ; Europe/Guernsey = -609 0 3600 7200 |
    B.1h6krttC.1ixx33B9uoCe00Bc00CdxcBe2oCdeoBdk0CdeoBfmoCbuoBdk0Ccw0BeioCeioBaw0Cfk0BbxcCfk0Bcg0
    CeioBcg0Ce00BcyoCf1cBcg0CeioBcg0Ce00BcyoCeioBcg0CeioBcg0Ce00BdhcCeioBcg0Ce00BcyoCeioBcg0Ceio
    Bcg0Ce00BcyoCeioBg2oC79cD9h0C1r6wDaw0Ce00DdhcCdhcDdhcC7pcB684Ce00BcyoCbxcD22kC8tcB684C9uoBh40
    CbeoBfk0Ccg0Be00CcyoBe00CdhcBe00CcyoBcg0Ce00BcyoCeioBcg0Cf1cBcg0Ce00BcyoCeioBcg0CeioBcg0Ce00
    BcyoCcyoBg2oCaw0Bg2oCbeoBfk0Caw0Bg2oCaw0Bg2oCaw0Bg2oCaw0BglcC8aoB2s2oCadcBglcCadcBglcCadcBglc
    CadcBglcCaw0Bg2oCaw0Bg2oCaw0BglcCadcBglcCadcBglcCbekBfk0CbeoBfk0CbeoBfk0CbeoBg2oCbeoBfk0Cbeo
    Bfk0CbeoBfk0CbeoBfk0CbeoBg2oCaw0Bg2oCbeoBfk0CbeoBfk0CbeoBfk0CbeoBfk0CbeoBfk0 | 1996 0 3600 3 5 0
    3600 10 5 0 7200 ; Europe/Helsinki Europe/Mariehamn = 5989 7200 10800 |
    B.1laeuqjC.ax3tqdBdmoCsx6wBdhcCdhcBdhcCdhgBdhcCdhcBe00CdhcBdhcCdhcBdhcCdhcBdhcCdhcBdhcCdhcBdhc
    CdhcBe00CdhcBdhcCdhcBdhcCdhcBdhcCdhcBdhcCdhcBdhc | 1996 7200 10800 3 5 0 10800 10 5 0 14400 ;
    Europe/Isle_of_Man = -1075 0 3600 7200 |
    B.11etw6rC.haosq5B9uoCe00Bc00CdxcBe2oCdeoBdk0CdeoBfmoCbuoBdk0Ccw0BeioCeioBaw0Cfk0BbxcCfk0Bcg0
    CeioBcg0Ce00BcyoCf1cBcg0CeioBcg0Ce00BcyoCeioBcg0CeioBcg0Ce00BdhcCeioBcg0Ce00BcyoCeioBcg0Ceio
    Bcg0Ce00BcyoCeioBg2oC79cDw58C79cDhmoC9c0DhmoC9uoDh40Ccg0DelcC7pcB684Ce00BcyoCbxcD22kC8tcB684
    C9uoBh40CbeoBfk0Ccg0Be00CcyoBe00CdhcBe00CcyoBcg0Ce00BcyoCeioBcg0Cf1cBcg0Ce00BcyoCeioBcg0Ceio
    Bcg0Ce00BcyoCcyoBg2oCaw0Bg2oCbeoBfk0Caw0Bg2oCaw0Bg2oCaw0Bg2oCaw0BglcC8aoB2s2oCadcBglcCadcBglc
    CadcBglcCadcBglcCaw0Bg2oCaw0Bg2oCaw0BglcCadcBglcCadcBglcCbekBfk0CbeoBfk0CbeoBfk0CbeoBg2oCbeo
    Bfk0CbeoBfk0CbeoBfk0CbeoBfk0CbeoBg2oCaw0Bg2oCbeoBfk0CbeoBfk0CbeoBfk0CbeoBfk0CbeoBfk0 | 1996 0
    3600 3 5 0 3600 10 5 0 7200 ; Europe/Jersey = -506 0 3600 7200 |
    B.19cgl4wCdhd4B9uoCe00Bc00CdxcBe2oCdeoBdk0CdeoBfmoCbuoBdk0Ccw0BeioCeioBaw0Cfk0BbxcCfk0Bcg0Ceio
    Bcg0Ce00BcyoCf1cBcg0CeioBcg0Ce00BcyoCeioBcg0CeioBcg0Ce00BdhcCeioBcg0Ce00BcyoCeioBcg0CeioBcg0
    Ce00BcyoCeioBg2oC79cD9h0C1r6wDaw0Ce00DdhcCdhcDdhcC7pcB684Ce00BcyoCbxcD22kC8tcB684C9uoBh40Cbeo
    Bfk0Ccg0Be00CcyoBe00CdhcBe00CcyoBcg0Ce00BcyoCeioBcg0Cf1cBcg0Ce00BcyoCeioBcg0CeioBcg0Ce00Bcyo
    CcyoBg2oCaw0Bg2oCbeoBfk0Caw0Bg2oCaw0Bg2oCaw0Bg2oCaw0BglcC8aoB2s2oCadcBglcCadcBglcCadcBglcCadc
    BglcCaw0Bg2oCaw0Bg2oCaw0BglcCadcBglcCadcBglcCbekBfk0CbeoBfk0CbeoBfk0CbeoBg2oCbeoBfk0CbeoBfk0
    CbeoBfk0CbeoBfk0CbeoBg2oCaw0Bg2oCbeoBfk0CbeoBfk0CbeoBfk0CbeoBfk0CbeoBfk0 | 1996 0 3600 3 5 0
    3600 10 5 0 7200 ; Europe/Kaliningrad = 4920 3600 7200 10800 14400 |
    B.16mua88C.c1n28oBbc4CelkBbeoCfk0BbeoCg6tcB1y00Caw0Be00CdhcBdhcCdhcD1zoCdrwDbmsEqaikDdjwEdhg
    DdjwEdhgDdjwEdk4DdhkEdhcDdhcEdhcDdhcEdhcDdhcEdhcDdhcCqysDdhcCe00DdhcCdhcDdhcCdhcDdhcCdhcDdhc
    CdhcDdhcCdhcDe00Cfk0DbeoCfk0DbeoCfk0DbeoCg2oDaw0Cg2oDaw0Cg2oDbeoCfk0DbeoCfk0DbeoCg2oDaw0Cg2o
    Daw0Cg2oDaw0Cg2oDbeoCfk0DbeoCfk0DbeoCg2oDaw0C2oyk | ; Europe/Kiev Europe/Kyiv Europe/Uzhgorod
    Europe/Zaporozhye = 7324 7200 10800 3600 14400 |
    B.1muub1gC.37a03gB8gd8Du8gBaw0De00C2fsEs3x4CdjwEdhgCdjwEdhgCdjwEdk4CdhkEdhcCdhcEdhcCdhcEdhc
    CdhcEdhcCdhcEdhcCdhcEdhcC798BxpkCdhcBdhcCdhcBdhcCdhcBdhcCdhcBdhcCe00Bfk4 | 1997 7200 10800 3 5 0
    10800 10 5 0 14400 ; Europe/Kirov = 11928 10800 14400 18000 |
    B.1kby8owC88voD125ukCdjwDdhgCdjwDdhgCdjwDdk4CdhkDdhcCdhcDdhcCdhcDdhcCdhcDdhcCdhcBqysCdhcBe00
    CdhcB14g0CdhcBdhcCdhcBdhcCdhcBdhcCe00Bfk0CbeoBfk0CbeoBfk0CbeoBg2oCaw0Bg2oCaw0Bg2oCbeoBfk0Cbeo
    Bfk0CbeoBg2oCaw0Bg2oCaw0Bg2oCaw0Bg2oCbeoBfk0CbeoBfk0CbeoBg2oCaw0B2oyk | ; Europe/Lisbon Portugal
    = -2205 0 3600 7200 |
    B.1gf3vcwC3cqkBa2sC8w0BgvwCa5gBgvwCa5gBgvwCa84BgvwCa5gBgvwC1vs0Bco0C15hcBcg0Ce00BcyoCeioBcyo
    CeioBcg0C15hcBcg0CdhcBdhcC14yoBdhcCcyoBe00CeioBcg0CdhcBdhcCcyoBe00CeioBg2oC79cBgqoCdc0Bdk0Cbuo
    D33wC8aoB56sCadcD2l8C9uoB4o4C9uoD33wC9c0B4o4C9uoD33wC9c0B4o4CbxcBdhcCdhoBdhcCdhcBdhcCdhcBdhc
    CdhcBdhcCdhcBe00CdhcBdhcCdhcBdhcCdhcBdhcCdhcBdhcCdhcBe00CdhcBdhcCdhcBdhcCdhcBdhcCdhcBdhcCdhc
    BdhcCdhcBe00CdhcBdhcCdhcBdhcCdhcBdhcCdhcB7vmgCdhcBdhcCe04BdhcCdhcBdhcCe00BcyoCdh8BdhcCdhcBdhc
    CdhcBdhcCdhcBe00CdhcBdhcCdhgBdhcCdhcBdhcCdhcBdhcCdhcBdhcCdhcBe00CdhcBdhcCdhcDqyoCdhcDdhcCdhc
    DdhcCdhcBtk0 | 1997 0 3600 3 5 0 3600 10 5 0 7200 ; Europe/Ljubljana = 3484 3600 7200 |
    B.11t2rc4C.twhmgsB15n0Caw0Be00CdhcBdhcCdhcBcdcCs79cBdhcCdhcBe00CdhcBdhcCdhcBdhcCdhcBdhcCdhc
    BdhcCdhcBdhcCdhcBe00CdhcBdhcCdhcBdhcCdhcBdhcCdhcBdhcCdhcBdhc | 1996 3600 7200 3 5 0 7200 10 5 0
    10800 ; Europe/Luxembourg = 1476 3600 7200 0 |
    B.1cgm7jwC.68l290BaasCfjwBag4Cfk8BbeoD56gB76oDg30B9ucDio8BaigDgo8Bb6gDeisBeikDcg8BcygDe04Bdjw
    DdesBeikDcg4BdzwDcysBeikDcysBeikDcgcBe00DcyoBeioDcg0BdhcDdhcBcyoDeioBdhcDdhcBcyoDe00BeioDcg0
    BdhcDdhcBcyoDe00BeioDg2oB79cC5uoB1ut8Caw0Be00CdhcBcg0CeioBcdcCi5cBag0Cmww0BcyoCe00BdhcCdhcBdhc
    Ce00BcyoCdhcBdhcCdhcBdhcCdhcBdhcCdhcBe00CdhcBdhcCdhcBdhcCdhcBdhcCdhcBdhcCdhcBdhcCdhcBe00Cdhc
    BdhcCdhcBdhcCdhcBdhcCdhcBdhcCdhcBdhc | 1996 3600 7200 3 5 0 7200 10 5 0 10800 ; Europe/Madrid =
    -884 0 3600 7200 |
    B.1aogzcwCczp8Bcw4Cdh8Bdk4C3eikBco4C15h8Bcg4CdzwBcysCeioBcyoCeikBcg4C5s7wB804Cdh8D22kCbhcBrew
    Cbx8D1ljwC8ysDgykCcg4DeikCcg4DeikCcg4DeikCcg4D1xzwCbesDifp8CcysDdzwCcysDcykCdhgDdzwCcysDe08
    CdhcDdhcCdhcDe00CcyoDdhcCdhcDdhcCdhcDdhcCdhcDdhcCe00DdhcCdhcDdhcCdhcDdhcCdhcDdhcCdhcDdhcCdhc
    DdhcCe00DdhcCdhcDdhcCdhcDdhcCdhcDdhcCdhcDdhcCdhc | 1996 3600 7200 3 5 0 7200 10 5 0 10800 ;
    Europe/Malta = 3484 3600 7200 |
    B.16xwgo4C.bsbx8sB8t8CdhgBdjwCbusBfmkCatgBg2kCcg4Bdh8Ceu04B1sg8Caw0Be00CdeoBcg0CelcBcagCdk8
    Bf1cCbx4Bf1cCaw8Bg2oCd914B9bwCi5gB8tcCi5cB8tcCio0B8tcCi5cB8tcChmoB9c0Ci5cB9c0CdeoBdhcCf40Bayo
    Cg08BbekCfk4BbekCfk4BbekCfk4BbekCfk4BbekCelgBcvwCe04BdhcCdhcBdhcCdhcBdhcCdhcBe00CdhcBdhcCdhc
    BdhcCdhcBdhcCdhcBdhcCdhcBdhcCdhcBe00CdhcBdhcCdhcBdhcCdhcBdhcCdhcBdhcCdhcBdhc | 1996 3600 7200 3
    5 0 7200 10 5 0 10800 ; Europe/Minsk = 6616 6600 7200 10800 3600 14400 |
    B.zpx4x4C.n4x6ogD.379zjcC8a58E10ggCaw0Ee00CdhcD6qcFrm58DdjwFdhgDdjwFdhgDdjwFdk4DdhkFdhcDdhc
    FdhcDdhcFdhcDdhcFdhcDdhcFdhcDdhcC1ig4DdhcCdhcDdhcCdhcDdhcCdhcDdhcCdhcDe00Cfk0DbeoCfk0DbeoCfk0
    DbeoCg2oDaw0Cg2oDaw0Cg2oDbeoCfk0DbeoCfk0DbeoCg2oDaw0Cg2oDaw0Cg2oDaw0Cg2oDbeoCfk0DbeoCfk0Dbeo
    Cg2oDaw0 | ; Europe/Monaco = 1772 561 0 3600 7200 |
    B.1677dzoC.9tlnlnD.2pzpnlC82oDcw0CelcDbc0CfmoDatcCg5cD9s0Cio0DaioCgo0Db6oCeioDh40C9uoDcyoCe00
    DdhcCdhcDeioCcg0De00CcyoDeioCcyoDeioCcg0De00CcyoDeioCcg0DdhcCdhcDcyoCeioDdhcCdhcDcyoCe00Deio
    Ccg0DdhcCdhcDcyoCe00DeioCg2oD79oEw7oDbekEbesDhmwEaw0De00EdhcDdx4Ed1kDcdcEmxzwDdh8Ee08DcyoEe00
    DdhcEdhcDdhcEe00DcyoEdhcDdhcEdhcDdhcEdhcDdhcEdhcDe00EdhcDdhcEdhcDdhcEdhcDdhcEdhcDdhcEdhcDdhc
    EdhcDe00EdhcDdhcEdhcDdhcEdhcDdhcEdhcDdhcEdhcDdhc | 1996 3600 7200 3 5 0 7200 10 5 0 10800 ;
    Europe/Moscow W-SU = 9017 9079 12679 16279 14400 10800 18000 7200 |
    B.1irpz2fC.ipzuaBd9cDbh8C7xgDj3wE.1jwk7F3e8E14o0G2ikEc5cF284Hr1gF5sw4E125ukFdjwEdhgFdjwEdhg
    FdjwEdk4FdhkEdhcFdhcEdhcFdhcEdhcFdhcEdhcFdhcEdhcFdhcEdhcFe00HqysF8aoE56kFdhcEdhcFdhcEdhcFdhc
    EdhcFdhcEe00Ffk0EbeoFfk0EbeoFfk0EbeoFg2oEaw0Fg2oEaw0Fg2oEbeoFfk0EbeoFfk0EbeoFg2oEaw0Fg2oEaw0
    Fg2oEaw0Fg2oEbeoFfk0EbeoFfk0EbeoFg2oEaw0F2oyk | ; Europe/Paris = 561 0 3600 7200 |
    B.1fzvplbC.2qx1nlB82oCcw0BelcCbc0BfmoCatcBg5cC9s0Bio0CaioBgo0Cb6oBeioCh40B9uoCcyoBe00CdhcBdhc
    CeioBcg0Ce00BcyoCeioBcyoCeioBcg0Ce00BcyoCeioBcg0CdhcBdhcCcyoBeioCdhcBdhcCcyoBe00CeioBcg0Cdhc
    BdhcCcyoBe00CeioBg2oC79oD87kC1sgcDaw0Ce00DdhcCdx4Dd1kCcdcDmxzwCdh8De08CcyoDe00CdhcDdhcCdhcDe00
    CcyoDdhcCdhcDdhcCdhcDdhcCdhcDdhcCe00DdhcCdhcDdhcCdhcDdhcCdhcDdhcCdhcDdhcCdhcDdhcCe00DdhcCdhc
    DdhcCdhcDdhcCdhcDdhcCdhcDdhcCdhc | 1996 3600 7200 3 5 0 7200 10 5 0 10800 ; Europe/Riga = 5794
    9394 7200 10800 3600 14400 |
    B.1jp7r3yAbeoBelcA3s0C58l4D.7fhlkyCofwE108gCaw0Ee00CdhcEdhcDt4Frel4DdjwFdhgDdjwFdhgDdjwFdk4
    DdhkFdhcDdhcFdhcDdhcFdhcDdhcFdhcDdhcCqysDdhcCe00DdhcCdhcDdhcCdhcDdhcCdhcDdhcCdhcDdhcCdhcDe00
    CdhcDdhgCfk0DbeoCfk0DbeoCg2o | 2001 7200 10800 3 5 0 10800 10 5 0 14400 ; Europe/Rome
    Europe/San_Marino Europe/Vatican = 2996 3600 7200 |
    B.16xulwwCgz40B8t8CdhgBdjwCbusBfmkCatgBg2kCcg4Bdh8Ceu04B1sg8Caw0Be00CdhcBcdcCelcBcagCdk8Bf1c
    Cbx4Bf1cCaw8Bg2oCd914B9bwCi5gB8tcCi5cB8tcCio0B8tcCi5cB8tcChmoB9c0Ci5cB9c0Ci5cB8tcChmoB9c0Ci5c
    B8tcCi5cB8tcChmoB9c0Ci5cB9c0ChmoB9c0Ce08BcyoCdhcBdhcCdhcBdhcCdhcBdhcCdhcBe00CdhcBdhcCdhcBdhc
    CdhcBdhcCdhcBdhcCdhcBdhcCdhcBe00CdhcBdhcCdhcBdhcCdhcBdhcCdhcBdhcCdhcBdhc | 1996 3600 7200 3 5 0
    7200 10 5 0 10800 ; Europe/Samara = 12020 10800 14400 18000 |
    B.1kby8owC88voD125ukCdjwDdhgCdjwDdhgCdjwDdk4CdhkDdhcCdhcDdhcCdhcDdhcCdhcDdhcCdhcBqysCdhcBe00
    CsisDbx4CdhcDdhcCdhcDdhcCdhcDdhcCdhcDe00Cfk0DbeoCfk0DbeoCfk0DbeoCg2oDaw0Cg2oDaw0Cg2oDbeoCfk0
    DbeoCfk0DbeoCg2oDaw0Cg2oDaw0Cg2oDaw0Cg2oDbeoCfk0DbeoCfk0BrhgCaw0 | ; Europe/Sarajevo = 4420 3600
    7200 |
    B.11t2qm4C.twhn6sB15n0Caw0Be00CdhcBdhcCdhcBcdcCs79cBdhcCdhcBe00CdhcBdhcCdhcBdhcCdhcBdhcCdhc
    BdhcCdhcBdhcCdhcBe00CdhcBdhcCdhcBdhcCdhcBdhcCdhcBdhcCdhcBdhc | 1996 3600 7200 3 5 0 7200 10 5 0
    10800 ; Europe/Saratov = 11058 10800 14400 18000 |
    B.1kby8owC88voD125ukCdjwDdhgCdjwDdhgCdjwDdk4CdhkDdhcCdhcDdhcCdhcDdhcCdhcBqysCdhcBdhcCdhcBe00
    CdhcB14g0CdhcBdhcCdhcBdhcCdhcBdhcCe00Bfk0CbeoBfk0CbeoBfk0CbeoBg2oCaw0Bg2oCaw0Bg2oCbeoBfk0Cbeo
    Bfk0CbeoBg2oCaw0Bg2oCaw0Bg2oCaw0Bg2oCbeoBfk0CbeoBfk0CbeoBg2oCaw0B2oykC1l1g | ; Europe/Simferopol
    = 8184 8160 7200 10800 3600 14400 |
    B.zpx3pkC.n4x6ooD.37a0qoC8jh8Er4gCaw0Ee00CdhcDqcFrs58DdjwFdhgDdjwFdhgDdjwFdk4DdhkFdhcDdhcFdhc
    DdhcFdhcDdhcFdhcDdhcFdhcDdhcCkqoD1b6sCdhcDdhcCdhcDdhcF2l0Daw8FdhcDdhcFdzsDfkcCqysDbeoCfk0Dbeo
    Cg2oDaw0Cg2oDaw0Cg2oDbeoCfk0DbeoCfk0DbeoCg2oDaw0Cg2oDaw0Cg2oDaw0Cg2oDbeoCfk0DbeoCfk0DbeoCg2o
    Daw0Cg2oDaw0Cg2oDbeoCfk0FbekDfjs | ; Europe/Skopje = 5144 3600 7200 |
    B.11t2q20C.twhnqwB15n0Caw0Be00CdhcBdhcCdhcBcdcCs79cBdhcCdhcBe00CdhcBdhcCdhcBdhcCdhcBdhcCdhc
    BdhcCdhcBdhcCdhcBe00CdhcBdhcCdhcBdhcCdhcBdhcCdhcBdhcCdhcBdhc | 1996 3600 7200 3 5 0 7200 10 5 0
    10800 ; Europe/Sofia = 5596 7016 7200 3600 10800 |
    B.zpx5pgC.7s708kD.p0d6uwCaw0De00CdhcDdhcCdhgEpjrgCdk4Edx8Cd1gEdx8CcywEdzsCcz0EdhcCdhcEdhcCe00
    EdhcCdhcEdhcCdhcEdhcCdhcEdhcCdhcEdhcCdhcEdhcCe00Edh4Cdh8EdhgCdh8EdhgCdh8EdhgCdh8EdhgCdh8Ee04
    Cfjw | 1997 7200 10800 3 5 0 10800 10 5 0 14400 ; Europe/Stockholm = 4332 3614 3600 7200 |
    B.z759ckC.ayjpvyD.8jiakeCaasD1bqdkCcyoDdhcCdhcDdhcCdhcDdhcCdhcDdhcCe00DdhcCdhcDdhcCdhcDdhcCdhc
    DdhcCdhcDdhcCdhcDdhcCe00DdhcCdhcDdhcCdhcDdhcCdhcDdhcCdhcDdhcCdhc | 1996 3600 7200 3 5 0 7200 10
    5 0 10800 ; Europe/Tallinn = 5940 3600 7200 10800 14400 |
    B.1jlgerwC.3re10BbeoAlbsC.ygov0D.a1zgd0CtzwBulsCaw0Be00CdhcDcqcErg58DdjwEdhgDdjwEdhgDdjwEdk4
    DdhkEdhcDdhcEdhcDdhcEdhcDdhcEdhcDdhcCqysDdhcCe00DdhcCdhcDdhcCdhcDdhcCdhcDdhcCdhcDdhcCdhcDe00
    Cfk0DbeoCfk0DbeoCfk4DbeoCg2o | 2002 7200 10800 3 5 0 10800 10 5 0 14400 ; Europe/Tirane = 4760
    3600 7200 |
    B.1hgph0oC.dt2gw8B1sdkCaw0Bw0CncigBb6kCfmsBbekCfs4BbekCg2sBavwCg04BaykCg04BaykCg04BbekCf44Bbek
    Cg2sBbekCelgBcakCdk4BdhkCdhcBdhcCdhcBdhcCdhcBdhcCdhcBdhcCdhcBdhcCdhcBe00CdhcBdhcCdhcBdhcCdhc
    BdhcCdhcBdhcCdhcBdhc | 1996 3600 7200 3 5 0 7200 10 5 0 10800 ; Europe/Ulyanovsk = 11616 10800
    14400 18000 7200 |
    B.1kby8owC88voD125ukCdjwDdhgCdjwDdhgCdjwDdk4CdhkDdhcCdhcDdhcCdhcDdhcCdhcDdhcCdhcBqysCdhcBe00
    EqysB8aoC56kBdhcCdhcBdhcCdhcBdhcCdhcBdhcCe00Bfk0CbeoBfk0CbeoBfk0CbeoBg2oCaw0Bg2oCaw0Bg2oCbeo
    Bfk0CbeoBfk0CbeoBg2oCaw0Bg2oCaw0Bg2oCaw0Bg2oCbeoBfk0CbeoBfk0CbeoBg2oCaw0B2oykC12dg | ;
    Europe/Vaduz = 2284 3600 7200 |
    B.178r89gC.ohmxrgBbeoCfk0BbeoCsx44BdhcCdhcBdhcCdhcBdhcCdhcBe00CdhcBdhcCdhcBdhcCdhcBdhcCdhcBdhc
    CdhcBdhcCdhcBe00CdhcBdhcCdhcBdhcCdhcBdhcCdhcBdhcCdhcBdhc | 1996 3600 7200 3 5 0 7200 10 5 0
    10800 ; Europe/Vienna = 3921 3600 7200 |
    B.16muazzC.c1n1gxBbc4CelkBbeoCfk0BbeoC1600BbxcCeow0B1y00Caw0Be00CdhcBdhcCdhcBqoCr6oBd1cCdeo
    BdhcCeioBcg0CnofsBcykCdhoBdhcCdhcBdhcCdhcBdhcCdhcBe00CdhcBdhcCdhcBdhcCdhcBdhcCdhcBdhcCdhcBdhc
    CdhcBe00CdhcBdhcCdhcBdhcCdhcBdhcCdhcBdhcCdhcBdhc | 1996 3600 7200 3 5 0 7200 10 5 0 10800 ;
    Europe/Vilnius = 6076 5040 5736 3600 7200 10800 14400 |
    B.zpx5c4C.jb5y4sD.1g224oE.e75ncD6l8Few5gEo2gD10r4Eaw0De00EdhcF8voGrjzwFdjwGdhgFdjwGdhgFdjwGdk4
    FdhkGdhcFdhcGdhcFdhcGdhcFdhcGdhcFdhcEqysFdhcEe00FdhcEdhcFdhcEdhcFdhcEdhcFdhcEdhcFdhcEdhcFe00
    Efk0FbeoEfk0DqysEbeo | 2003 7200 10800 3 5 0 10800 10 5 0 14400 ; Europe/Volgograd = 10660 10800
    14400 18000 |
    B.1kliggsC.5glrw4D125ukCdjwDdhgCdjwDdhgCdjwDdk4CdhkDdhcCdhcDdhcCdhcDdhcCdhcBqysCdhcBdhcCdhc
    Be00CdhcB14g0CdhcBdhcCdhcBdhcCdhcBdhcCe00Bfk0CbeoBfk0CbeoBfk0CbeoBg2oCaw0Bg2oCaw0Bg2oCbeoBfk0
    CbeoBfk0CbeoBg2oCaw0Bg2oCaw0Bg2oCaw0Bg2oCbeoBfk0CbeoBfk0CbeoBg2oCaw0B2oykC30dgB1ml8 | ;
    Europe/Warsaw Poland = 5040 3600 7200 10800 |
    B.1iale4wC.dvyc0Bbc4CelkBbeoCfk0Dr18CbeoB2194CdkocB1ruoCaw0Be00CdhcBdmkCfbwBdrwCc5gBd1kCfhc
    BbeoCeioBcg0Ce00BcyoC5rekB8tcCdhcBdhcCi5cB9c0CdhcBdhcChmoB9c0ChmoB9c0ChmoB9c0Ci5cB8tcC9elcBcyo
    Ce00BdhcCdhcBdhcCe00BcyoCdhcBdhcCdhcBdhcCdhcBdhcCdhcBe00CdhcBdhcCdhcBdhcCdhcBdhcCdhgBdhcCdhc
    BdhcCdhcBe00CdhcBdhcCdhcBdhcCdhcBdhcCdhcBdhcCdhcBdhc | 1996 3600 7200 3 5 0 7200 10 5 0 10800 ;
    Europe/Zagreb = 3832 3600 7200 |
    B.11t2r2gC.twhmqgB15n0Caw0Be00CdhcBdhcCdhcBcdcCs79cBdhcCdhcBe00CdhcBdhcCdhcBdhcCdhcBdhcCdhc
    BdhcCdhcBdhcCdhcBe00CdhcBdhcCdhcBdhcCdhcBdhcCdhcBdhcCdhcBdhc | 1996 3600 7200 3 5 0 7200 10 5 0
    10800 ; Factory = 0 | | ; HST = -36000 | | ; Indian/Antananarivo = 11404 10800 14400 |
    B.1g5mvw4C.m9lccsB6qo | ; Indian/Chagos = 17380 18000 21600 | B.1dt60m4C.1ag64us | ;
    Indian/Christmas = 25372 25200 | B.17lcfs4 | ; Indian/Cocos = 23260 23400 | B.1a5ok2s | ;
    Indian/Comoro = 10384 10800 | B.1g5mwog | ; Indian/Kerguelen = 0 18000 | B.2093kow | ;
    Indian/Mahe = 13308 14400 | B.1dt63r8 | ; Indian/Maldives = 17640 18000 | B.25gy5qw | ;
    Indian/Mauritius = 13800 14400 18000 | B.1dt63dkC.13jnu7cBbzwCj8ocBbek | ; Indian/Mayotte =
    10856 10800 | B.1g5mwbc | ; Indian/Reunion = 13312 14400 | B.1g43af4 | ; Kwajalein
    Pacific/Kwajalein = 40160 39600 36000 32400 -43200 43200 | B.1aog4dcC.ise0fkD36w4B2544Ej9zsFhyd8
    | ; MET = 3600 7200 |
    B.1iohcgwAbc4BelkAbeoBfk0AbeoBg6tcA1y00Baw0Ae00BdhcAdhcBdhcAcdcBnphcAcyoBe00AdhcBdhcAdhcBe00
    AcyoBdhcAdhcBdhcAdhcBdhcAdhcBdhcAe00BdhcAdhcBdhcAdhcBdhcAdhcBdhcAdhcBdhcAdhcBdhcAe00BdhcAdhc
    BdhcAdhcBdhcAdhcBdhcAdhcBdhcAdhc | 1996 3600 7200 3 5 0 7200 10 5 0 10800 ; MST = -25200 | | ;
    MST7MDT = -25200 -21600 |
    B.1jogn0wAfjwBbesAfjwBgr44A2qfwBg7usAdh8BdhgAdh8BdhgAdh8BdhgAdh8BdhgAdzwBdhgAdh8BdhgAdh8B56s
    AlrwB8tgAi58BdhgAdzwBcysAdzwBdhgAdh8BdhgAdh8BdhgAdh8BdhgAdh8BdhgAdzwBcysAdzwBdhgAdh8BdhgAdh8
    BdhgAdh8BbxgAf18BbxgAfjwBbesAfjwBbesAfjwBbxgAf18BbxgAf18BbxgAfjwBbesAfjwBbesAfjwBbxgAf18Bbxg
    Af18BbxgAf18BbxgAfjwBbesAfjwBbesAfjwBbxgAf18BbxgAf18BbxgAfjwBbesAfjwBbesAfjw | 2007 -25200
    -21600 3 2 0 7200 11 1 0 7200 ; NZ Pacific/Auckland = 41944 41400 45000 43200 46800 |
    B.tw6dnsC.usn9z4B8t8DglgBbemDfk2BbemDfk2BbemDfk2BbxaDf1eBbxaDf1eBf1aDbeqBfjyDbeqBfjyDbeqBfjy
    DbeqBfjyDbeqBg2mDaw2Bg2mDbeqEpmfyD8aoEi5cD9uoEhmoD9c0EhmoD9c0EhmoD9c0EhmoD9c0EhmoD9c0EhmoD9uo
    EhmoD9c0EhmoD9c0EhmoD9c0EhmoD9c0EhmoD9c0EhmoD9uoEhmoD9c0Eg2oDbxcEf1cDbxcEf1cDbxcEf1cDcg0Eeio
    Dcg0EeioDcg0EeioDcg0Ef1cDbxcEf1cDbxcEf1cDcg0EeioDcg0EeioDcg0Ef1cDbxcEf1cDbxcEf1cDcg0EeioDcg0
    EeioDcg0EeioDcg0Eeio | 2008 43200 46800 9 5 0 7200 4 1 0 10800 ; NZ-CHAT Pacific/Chatham = 44028
    44100 45900 49500 |
    B.tw6c1wC.149qqm0Dlo89C8aoDi5cC9uoDhmoC9c0DhmoC9c0DhmoC9c0DhmoC9c0DhmoC9c0DhmoC9uoDhmoC9c0Dhmo
    C9c0DhmoC9c0DhmoC9c0DhmoC9c0DhmoC9uoDhmoC9c0Dg2oCbxcDf1cCbxcDf1cCbxcDf1cCcg0DeioCcg0DeioCcg0
    DeioCcg0Df1cCbxcDf1cCbxcDf1cCcg0DeioCcg0DeioCcg0Df1cCbxcDf1cCbxcDf1cCcg0DeioCcg0DeioCcg0Deio
    Ccg0Deio | 2008 45900 49500 9 5 0 9900 4 1 0 13500 ; PST8PDT = -28800 -25200 |
    B.1jogpswAfjwBbesAfjwBgr44A2qfwBg7usAdh8BdhgAdh8BdhgAdh8BdhgAdh8BdhgAdzwBdhgAdh8BdhgAdh8B56s
    AlrwB8tgAi58BdhgAdzwBcysAdzwBdhgAdh8BdhgAdh8BdhgAdh8BdhgAdh8BdhgAdzwBcysAdzwBdhgAdh8BdhgAdh8
    BdhgAdh8BbxgAf18BbxgAfjwBbesAfjwBbesAfjwBbxgAf18BbxgAf18BbxgAfjwBbesAfjwBbesAfjwBbxgAf18Bbxg
    Af18BbxgAf18BbxgAfjwBbesAfjwBbesAfjwBbxgAf18BbxgAf18BbxgAfjwBbesAfjwBbesAfjw | 2007 -28800
    -25200 3 2 0 7200 11 1 0 7200 ; Pacific/Apia = 45184 -41216 -41400 -39600 -36000 50400 46800 |
    B.168xf5sCdwaoD.kcrmt4E19n6mDdxoEcyoF768G6tsFdhcGe00FcyoGe00FcyoGe00FcyoGe00FcyoGe00FcyoGe00
    FdhcGe00FcyoGe00FcyoGe00 | ; Pacific/Bougainville = 37336 35312 36000 32400 39600 |
    B.zpwh7sC.7tuc88D.osc24wC2cysE1g4dg | ; Pacific/Chuuk Pacific/Truk Pacific/Yap = -49972 36428
    36000 32400 | B.hgc9x0C1631cD.76a5nwC39c4DgnmkC399g | ; Pacific/Efate = 40396 39600 43200 |
    B.1gfp86sC.wbu364B79cC74o4Bdh8CdhgBdh8Ce04BcykCe04Bdh8CdhgBdh8CdhgBdh8CdhgBdh8CdhgBdh8Ce04B8t8
    Ck84B6qk | ; Pacific/Enderbury Pacific/Kanton = 0 -43200 -39600 46800 | B.1ttb4owCvmmoDbgl8 | ;
    Pacific/Fakaofo = -41096 -39600 46800 | B.1aohv2gC.1lxe1ig | ; Pacific/Fiji = 42944 43200 46800
    | B.1iesfk0C.17bs00wB8tcCio0B8aoC7bxcB8tcCfk0B9uoCh40B6qoCk80B6qoCkqoB67wCl9gB5pcCl9cB5pcCls0
    B56oCls0B56oCls0B56oCmaoB4o0CpeoB22o | ; Pacific/Funafuti = 43012 43200 | B.1aog264 | ;
    Pacific/Galapagos = -21504 -18000 -21600 | B.1qc46m8C.spdryoB56w4C53w | ; Pacific/Gambier =
    -32388 -32400 | B.1gt7z0k | ; Pacific/Guadalcanal = 38388 39600 | B.1gt6gek | ; Pacific/Guam =
    -51660 34740 36000 32400 39600 |
    B.hgcb7wC1631cD.ld6pp0C1zesEb79gC173wE4y84C.qdrpoE.7kgacC56kEhmsC9ukEh44C9ukE1ppgC56kE1ow4
    C.4ivxoE.cls2cC9bw | ; Pacific/Honolulu Pacific/Johnston US/Hawaii = -37886 -37800 -34200 -36000
    | B.1837glaC.jgnatmB1l0C6jz0B2qfwD19ms | ; Pacific/Kiritimati = -37760 -38400 -36000 50400 |
    B.1aohshsC.153iz5sD.7yirhc | ; Pacific/Kosrae = -47284 39116 39600 32400 36000 43200 |
    B.hgc7ucC1631cD.76a4ykC39c8EdgqgD36w4C399gFi5ugClzek | ; Pacific/Majuro = 41088 39600 32400
    36000 43200 | B.1aog3nkC.76a6hcB39c8DdgqgC36w4B24lgEjaig | ; Pacific/Marquesas = -33480 -34200 |
    B.1gt7zuw | ; Pacific/Midway = -42568 -39600 -36000 | B.1aohw7cC.sx94dkB6qk | ; Pacific/Nauru =
    40060 41400 32400 43200 | B.1l4xts4C.ba66ysB29xmDp4am | ; Pacific/Niue = -40780 -40800 -39600 |
    B.21pjhhoC.63yiok | ; Pacific/Norfolk = 40312 40320 41400 45000 39600 43200 |
    B.1aog494C.q3einsD.cfj8q0C9c0Eui80F30de | 2020 39600 43200 10 1 0 7200 4 1 0 10800 ;
    Pacific/Noumea = 39948 39600 43200 | B.1gfp8j8C.ye0ixoB6akCko4B6d8Cdcj0B6qo | ;
    Pacific/Pago_Pago Pacific/Samoa US/Samoa = 45432 -40968 -39600 | B.168xeywCdwao | ;
    Pacific/Palau = -54124 32276 32400 | B.hgcd4cC1631c | ; Pacific/Pitcairn = -31220 -30600 -28800
    | B.1aohng4C.1esg26s | ; Pacific/Pohnpei Pacific/Ponape = -48428 37972 39600 32400 36000 |
    B.hgc8q4C1631cD.76a42sC39c8EdgqgD36w4C399g | ; Pacific/Port_Moresby = 35320 35312 36000 |
    B.zpwirsC.7tuao8 | ; Pacific/Rarotonga = 48056 -38344 -37800 -34200 -36000 |
    B.1a5cwy0C13oqoD.dlv68wE8akDhmqE9byDhmqE9byDhmqE9umDhmqE9byDhmqE9byDhmqE9byDhmqE9byDhmqE9by
    DhmqE9umDhmqE9byDhmqE9byDhmqE9by | ; Pacific/Saipan = -51420 34980 32400 36000 39600 |
    B.hgcb18C1631cD.mpn8noEb8w4D173wE4y84D.qdrpoE.7kgacD56kEhmsD9ukEh44D9ukE1ppgD56kE1ow4D.4ivxo
    E.cls2cD9bw | ; Pacific/Tahiti = -35896 -36000 | B.1gt81q0 | ; Pacific/Tarawa = 41524 43200 |
    B.1aog3bg | ; Pacific/Tongatapu = 44352 44400 46800 50400 |
    B.1y03t4wC.7znjyoD.k8amdcCc5cDh40C67wDkqsC67wDb3s4C56o | ; Pacific/Wake = 39988 43200 |
    B.1aog4i4 | ; Pacific/Wallis = 44120 43200 | B.1aog1bc | ; WET = 0 3600 |
    B.2eh4zgwAcyoBe00AdhcBdhcAdhcBe00AcyoBdhcAdhcBdhcAdhcBdhcAdhcBdhcAe00BdhcAdhcBdhcAdhcBdhcAdhc
    BdhcAdhcBdhcAdhcBdhcAe00BdhcAdhcBdhcAdhcBdhcAdhcBdhcAdhcBdhcAdhc | 1996 0 3600 3 5 0 3600 10 5 0
    7200 ;"

end FormBuilder
