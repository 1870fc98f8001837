/-!
The simple case swaps of Unicode 17: for a lowercase letter its uppercase form and for an uppercase
letter its lowercase form, where that form is one other character. An entry `first-last/step>target`
sends `first` to `target`, `first + step` to `target + step` and so on.
-/

namespace Specimen.Unicode.Case

def runsText : String := "
  41-5a>61 61-7a>41 b5>39c c0-d6>e0 d8-de>f8 e0-f6>c0 f8-fe>d8 ff>178 100-12e/2>101 101-12f/2>100
  131>49 132-136/2>133 133-137/2>132 139-147/2>13a 13a-148/2>139 14a-176/2>14b 14b-177/2>14a
  178>ff 179-17d/2>17a 17a-17e/2>179 17f>53 180>243 181>253 182-184/2>183 183-185/2>182 186>254
  187-18b/4>188 188-18c/4>187 189-18a>256 18e>1dd 18f>259 190>25b 191>192 192>191 193>260 194>263
  195>1f6 196>269 197>268 198>199 199>198 19a>23d 19b>a7dc 19c>26f 19d>272 19e>220 19f>275
  1a0-1a4/2>1a1 1a1-1a5/2>1a0 1a6>280 1a7>1a8 1a8>1a7 1a9>283 1ac>1ad 1ad>1ac 1ae>288
  1af-1b3/4>1b0 1b0-1b4/4>1af 1b1-1b2>28a 1b5>1b6 1b6>1b5 1b7>292 1b8-1bc/4>1b9 1b9-1bd/4>1b8
  1bf>1f7 1c4>1c6 1c6>1c4 1c7>1c9 1c9>1c7 1ca>1cc 1cc>1ca 1cd-1db/2>1ce 1ce-1dc/2>1cd 1dd>18e
  1de-1ee/2>1df 1df-1ef/2>1de 1f1>1f3 1f3>1f1 1f4-21c/4>1f5 1f5-21d/4>1f4 1f6>195 1f7>1bf
  1fa-232/4>1fb 1fb-233/4>1fa 220>19e 224-230/4>225 225-231/4>224 23a>2c65 23b>23c 23c>23b 23d>19a
  23e>2c66 23f-240>2c7e 241>242 242>241 243>180 244>289 245>28c 246-24e/2>247 247-24f/2>246
  250>2c6f 251>2c6d 252>2c70 253>181 254>186 256-257>189 259>18f 25b>190 25c>a7ab 260>193 261>a7ac
  263>194 264>a7cb 265>a78d 266-26a/4>a7aa 268>197 269>196 26b>2c62 26c>a7ad 26f>19c 271>2c6e
  272>19d 275>19f 27d>2c64 280>1a6 282>a7c5 283>1a9 287>a7b1 288>1ae 289>244 28a-28b>1b1 28c>245
  292>1b7 29d>a7b2 29e>a7b0 345>399 370-372/2>371 371-373/2>370 376>377 377>376 37b-37d>3fd
  37f>3f3 386>3ac 388-38a>3ad 38c>3cc 38e-38f>3cd 391-3a1>3b1 3a3-3ab>3c3 3ac>386 3ad-3af>388
  3b1-3c1>391 3c2>3a3 3c3-3cb>3a3 3cc>38c 3cd-3ce>38e 3cf>3d7 3d0>392 3d1>398 3d5>3a6 3d6>3a0
  3d7>3cf 3d8-3ee/2>3d9 3d9-3ef/2>3d8 3f0>39a 3f1>3a1 3f2>3f9 3f3>37f 3f4>3b8 3f5>395 3f7>3f8
  3f8>3f7 3f9>3f2 3fa>3fb 3fb>3fa 3fd-3ff>37b 400-40f>450 410-42f>430 430-44f>410 450-45f>400
  460-480/2>461 461-481/2>460 48a-4be/2>48b 48b-4bf/2>48a 4c0>4cf 4c1-4cd/2>4c2 4c2-4ce/2>4c1
  4cf>4c0 4d0-52e/2>4d1 4d1-52f/2>4d0 531-556>561 561-586>531 10a0-10c5>2d00 10c7>2d27 10cd>2d2d
  10d0-10fa>1c90 10fd-10ff>1cbd 13a0-13ef>ab70 13f0-13f5>13f8 13f8-13fd>13f0 1c80>412 1c81>414
  1c82>41e 1c83-1c84>421 1c85>422 1c86>42a 1c87>462 1c88>a64a 1c89>1c8a 1c8a>1c89 1c90-1cba>10d0
  1cbd-1cbf>10fd 1d79>a77d 1d7d>2c63 1d8e>a7c6 1e00-1e94/2>1e01 1e01-1e95/2>1e00 1e9b>1e60 1e9e>df
  1ea0-1efe/2>1ea1 1ea1-1eff/2>1ea0 1f00-1f07>1f08 1f08-1f0f>1f00 1f10-1f15>1f18 1f18-1f1d>1f10
  1f20-1f27>1f28 1f28-1f2f>1f20 1f30-1f37>1f38 1f38-1f3f>1f30 1f40-1f45>1f48 1f48-1f4d>1f40
  1f51-1f57/2>1f59 1f59-1f5f/2>1f51 1f60-1f67>1f68 1f68-1f6f>1f60 1f70-1f71>1fba 1f72-1f75>1fc8
  1f76-1f77>1fda 1f78-1f79>1ff8 1f7a-1f7b>1fea 1f7c-1f7d>1ffa 1fb0-1fb1>1fb8 1fb8-1fb9>1fb0
  1fba-1fbb>1f70 1fbe>399 1fc8-1fcb>1f72 1fd0-1fd1>1fd8 1fd8-1fd9>1fd0 1fda-1fdb>1f76
  1fe0-1fe1>1fe8 1fe5>1fec 1fe8-1fe9>1fe0 1fea-1feb>1f7a 1fec>1fe5 1ff8-1ff9>1f78 1ffa-1ffb>1f7c
  2126>3c9 212a>6b 212b>e5 2132>214e 214e>2132 2160-216f>2170 2170-217f>2160 2183>2184 2184>2183
  24b6-24cf>24d0 24d0-24e9>24b6 2c00-2c2f>2c30 2c30-2c5f>2c00 2c60>2c61 2c61>2c60 2c62>26b
  2c63>1d7d 2c64>27d 2c65>23a 2c66>23e 2c67-2c6b/2>2c68 2c68-2c6c/2>2c67 2c6d>251 2c6e>271
  2c6f>250 2c70>252 2c72>2c73 2c73>2c72 2c75>2c76 2c76>2c75 2c7e-2c7f>23f 2c80-2ce2/2>2c81
  2c81-2ce3/2>2c80 2ceb-2ced/2>2cec 2cec-2cee/2>2ceb 2cf2>2cf3 2cf3>2cf2 2d00-2d25>10a0 2d27>10c7
  2d2d>10cd a640-a66c/2>a641 a641-a66d/2>a640 a680-a69a/2>a681 a681-a69b/2>a680 a722-a76e/4>a723
  a723-a76f/4>a722 a724-a72c/4>a725 a725-a72d/4>a724 a734-a76c/4>a735 a735-a76d/4>a734
  a779-a77b/2>a77a a77a-a77c/2>a779 a77d>1d79 a77e-a786/2>a77f a77f-a787/2>a77e a78b>a78c
  a78c>a78b a78d>265 a790-a792/2>a791 a791-a793/2>a790 a794>a7c4 a796-a7a8/2>a797 a797-a7a9/2>a796
  a7aa-a7ae/4>266 a7ab>25c a7ac>261 a7ad>26c a7b0>29e a7b1>287 a7b2>29d a7b3>ab53 a7b4-a7c2/2>a7b5
  a7b5-a7c3/2>a7b4 a7c4>a794 a7c5>282 a7c6>1d8e a7c7-a7c9/2>a7c8 a7c8-a7ca/2>a7c7 a7cb>264
  a7cc-a7da/2>a7cd a7cd-a7db/2>a7cc a7dc>19b a7f5>a7f6 a7f6>a7f5 ab53>a7b3 ab70-abbf>13a0
  ff21-ff3a>ff41 ff41-ff5a>ff21 10400-10427>10428 10428-1044f>10400 104b0-104d3>104d8
  104d8-104fb>104b0 10570-10594/2>10597 10571-10595/4>10598 10573-10577/4>1059a
  1057f-10587/4>105a6 1058f>105b6 10597-105bb/2>10570 10598-105bc/4>10571 1059a-1059e/4>10573
  105a6-105ae/4>1057f 105b6>1058f 10c80-10cb2>10cc0 10cc0-10cf2>10c80 10d50-10d65>10d70
  10d70-10d85>10d50 118a0-118bf>118c0 118c0-118df>118a0 16e40-16e5f>16e60 16e60-16e7f>16e40
  16ea0-16eb8>16ebb 16ebb-16ed3>16ea0 1e900-1e921>1e922 1e922-1e943>1e900"

end Specimen.Unicode.Case
