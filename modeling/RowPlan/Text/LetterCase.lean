import RowPlan.Text.CharacterClass

/-!
# Letter case

Full lower-case, upper-case and case-folding maps. A map is a list of runs that shift single
characters and a list of characters with longer images; the ASCII letters are handled apart.
Lower case knows one rule of context: a capital sigma that ends a word becomes a final sigma.
-/

namespace RowPlan.Text

/-- Lower-case images beyond ASCII. -/
def lowerRuns : List ShiftRun := ShiftRun.readAll
  "c0 17 1 e0;d8 7 1 f8;100 18 2 101;132 3 2 133;139 8 2 13a;14a 17 2 14b;178 1 1 ff;
   179 3 2 17a;181 1 1 253;182 2 2 183;186 1 1 254;187 1 1 188;189 2 1 256;18b 1 1 18c;
   18e 1 1 1dd;18f 1 1 259;190 1 1 25b;191 1 1 192;193 1 1 260;194 1 1 263;196 1 1 269;
   197 1 1 268;198 1 1 199;19c 1 1 26f;19d 1 1 272;19f 1 1 275;1a0 3 2 1a1;1a6 1 1 280;
   1a7 1 1 1a8;1a9 1 1 283;1ac 1 1 1ad;1ae 1 1 288;1af 1 1 1b0;1b1 2 1 28a;1b3 2 2 1b4;
   1b7 1 1 292;1b8 1 1 1b9;1bc 1 1 1bd;1c4 1 1 1c6;1c5 1 1 1c6;1c7 1 1 1c9;1c8 1 1 1c9;
   1ca 1 1 1cc;1cb 9 2 1cc;1de 9 2 1df;1f1 1 1 1f3;1f2 2 2 1f3;1f6 1 1 195;1f7 1 1 1bf;
   1f8 14 2 1f9;220 1 1 19e;222 9 2 223;23a 1 1 2c65;23b 1 1 23c;23d 1 1 19a;23e 1 1 2c66;
   241 1 1 242;243 1 1 180;244 1 1 289;245 1 1 28c;246 5 2 247;370 2 2 371;376 1 1 377;
   37f 1 1 3f3;386 1 1 3ac;388 3 1 3ad;38c 1 1 3cc;38e 2 1 3cd;391 11 1 3b1;3a3 9 1 3c3;
   3cf 1 1 3d7;3d8 c 2 3d9;3f4 1 1 3b8;3f7 1 1 3f8;3f9 1 1 3f2;3fa 1 1 3fb;3fd 3 1 37b;
   400 10 1 450;410 20 1 430;460 11 2 461;48a 1b 2 48b;4c0 1 1 4cf;4c1 7 2 4c2;4d0 30 2 4d1;
   531 26 1 561;10a0 26 1 2d00;10c7 1 1 2d27;10cd 1 1 2d2d;13a0 50 1 ab70;13f0 6 1 13f8;
   1c90 2b 1 10d0;1cbd 3 1 10fd;1e00 4b 2 1e01;1e9e 1 1 df;1ea0 30 2 1ea1;1f08 8 1 1f00;
   1f18 6 1 1f10;1f28 8 1 1f20;1f38 8 1 1f30;1f48 6 1 1f40;1f59 4 2 1f51;1f68 8 1 1f60;
   1f88 8 1 1f80;1f98 8 1 1f90;1fa8 8 1 1fa0;1fb8 2 1 1fb0;1fba 2 1 1f70;1fbc 1 1 1fb3;
   1fc8 4 1 1f72;1fcc 1 1 1fc3;1fd8 2 1 1fd0;1fda 2 1 1f76;1fe8 2 1 1fe0;1fea 2 1 1f7a;
   1fec 1 1 1fe5;1ff8 2 1 1f78;1ffa 2 1 1f7c;1ffc 1 1 1ff3;2126 1 1 3c9;212a 1 1 6b;
   212b 1 1 e5;2132 1 1 214e;2160 10 1 2170;2183 1 1 2184;24b6 1a 1 24d0;2c00 30 1 2c30;
   2c60 1 1 2c61;2c62 1 1 26b;2c63 1 1 1d7d;2c64 1 1 27d;2c67 3 2 2c68;2c6d 1 1 251;
   2c6e 1 1 271;2c6f 1 1 250;2c70 1 1 252;2c72 1 1 2c73;2c75 1 1 2c76;2c7e 2 1 23f;
   2c80 32 2 2c81;2ceb 2 2 2cec;2cf2 1 1 2cf3;a640 17 2 a641;a680 e 2 a681;a722 7 2 a723;
   a732 1f 2 a733;a779 2 2 a77a;a77d 1 1 1d79;a77e 5 2 a77f;a78b 1 1 a78c;a78d 1 1 265;
   a790 2 2 a791;a796 a 2 a797;a7aa 1 1 266;a7ab 1 1 25c;a7ac 1 1 261;a7ad 1 1 26c;
   a7ae 1 1 26a;a7b0 1 1 29e;a7b1 1 1 287;a7b2 1 1 29d;a7b3 1 1 ab53;a7b4 8 2 a7b5;
   a7c4 1 1 a794;a7c5 1 1 282;a7c6 1 1 1d8e;a7c7 2 2 a7c8;a7d0 1 1 a7d1;a7d6 2 2 a7d7;
   a7f5 1 1 a7f6;ff21 1a 1 ff41;10400 28 1 10428;104b0 24 1 104d8;10570 13 2 10597;
   10571 5 2 10598;1057d 7 2 105a4;1058d 3 2 105b4;10595 1 1 105bc;10c80 33 1 10cc0;
   118a0 20 1 118c0;16e40 20 1 16e60;1e900 22 1 1e922"

/-- Upper-case images beyond ASCII that are one character. -/
def upperRuns : List ShiftRun := ShiftRun.readAll
  "b5 1 1 39c;e0 17 1 c0;f8 7 1 d8;ff 1 1 178;101 18 2 100;131 1 1 49;133 3 2 132;13a 8 2 139;
   14b 17 2 14a;17a 3 2 179;17f 1 1 53;180 1 1 243;183 2 2 182;188 1 1 187;18c 1 1 18b;
   192 1 1 191;195 1 1 1f6;199 1 1 198;19a 1 1 23d;19e 1 1 220;1a1 3 2 1a0;1a8 1 1 1a7;
   1ad 1 1 1ac;1b0 1 1 1af;1b4 2 2 1b3;1b9 1 1 1b8;1bd 1 1 1bc;1bf 1 1 1f7;1c5 1 1 1c4;
   1c6 1 1 1c4;1c8 1 1 1c7;1c9 1 1 1c7;1cb 1 1 1ca;1cc 1 1 1ca;1ce 8 2 1cd;1dd 1 1 18e;
   1df 9 2 1de;1f2 1 1 1f1;1f3 1 1 1f1;1f5 1 1 1f4;1f9 14 2 1f8;223 9 2 222;23c 1 1 23b;
   23f 2 1 2c7e;242 1 1 241;247 5 2 246;250 1 1 2c6f;251 1 1 2c6d;252 1 1 2c70;253 1 1 181;
   254 1 1 186;256 2 1 189;259 1 1 18f;25b 1 1 190;25c 1 1 a7ab;260 1 1 193;261 1 1 a7ac;
   263 1 1 194;265 1 1 a78d;266 1 1 a7aa;268 1 1 197;269 1 1 196;26a 1 1 a7ae;26b 1 1 2c62;
   26c 1 1 a7ad;26f 1 1 19c;271 1 1 2c6e;272 1 1 19d;275 1 1 19f;27d 1 1 2c64;280 1 1 1a6;
   282 1 1 a7c5;283 1 1 1a9;287 1 1 a7b1;288 1 1 1ae;289 1 1 244;28a 2 1 1b1;28c 1 1 245;
   292 1 1 1b7;29d 1 1 a7b2;29e 1 1 a7b0;345 1 1 399;371 2 2 370;377 1 1 376;37b 3 1 3fd;
   3ac 1 1 386;3ad 3 1 388;3b1 11 1 391;3c2 1 1 3a3;3c3 9 1 3a3;3cc 1 1 38c;3cd 2 1 38e;
   3d0 1 1 392;3d1 1 1 398;3d5 1 1 3a6;3d6 1 1 3a0;3d7 1 1 3cf;3d9 c 2 3d8;3f0 1 1 39a;
   3f1 1 1 3a1;3f2 1 1 3f9;3f3 1 1 37f;3f5 1 1 395;3f8 1 1 3f7;3fb 1 1 3fa;430 20 1 410;
   450 10 1 400;461 11 2 460;48b 1b 2 48a;4c2 7 2 4c1;4cf 1 1 4c0;4d1 30 2 4d0;561 26 1 531;
   10d0 2b 1 1c90;10fd 3 1 1cbd;13f8 6 1 13f0;1c80 1 1 412;1c81 1 1 414;1c82 1 1 41e;
   1c83 2 1 421;1c85 1 1 422;1c86 1 1 42a;1c87 1 1 462;1c88 1 1 a64a;1d79 1 1 a77d;
   1d7d 1 1 2c63;1d8e 1 1 a7c6;1e01 4b 2 1e00;1e9b 1 1 1e60;1ea1 30 2 1ea0;1f00 8 1 1f08;
   1f10 6 1 1f18;1f20 8 1 1f28;1f30 8 1 1f38;1f40 6 1 1f48;1f51 4 2 1f59;1f60 8 1 1f68;
   1f70 2 1 1fba;1f72 4 1 1fc8;1f76 2 1 1fda;1f78 2 1 1ff8;1f7a 2 1 1fea;1f7c 2 1 1ffa;
   1fb0 2 1 1fb8;1fbe 1 1 399;1fd0 2 1 1fd8;1fe0 2 1 1fe8;1fe5 1 1 1fec;214e 1 1 2132;
   2170 10 1 2160;2184 1 1 2183;24d0 1a 1 24b6;2c30 30 1 2c00;2c61 1 1 2c60;2c65 1 1 23a;
   2c66 1 1 23e;2c68 3 2 2c67;2c73 1 1 2c72;2c76 1 1 2c75;2c81 32 2 2c80;2cec 2 2 2ceb;
   2cf3 1 1 2cf2;2d00 26 1 10a0;2d27 1 1 10c7;2d2d 1 1 10cd;a641 17 2 a640;a681 e 2 a680;
   a723 7 2 a722;a733 1f 2 a732;a77a 2 2 a779;a77f 5 2 a77e;a78c 1 1 a78b;a791 2 2 a790;
   a794 1 1 a7c4;a797 a 2 a796;a7b5 8 2 a7b4;a7c8 2 2 a7c7;a7d1 1 1 a7d0;a7d7 2 2 a7d6;
   a7f6 1 1 a7f5;ab53 1 1 a7b3;ab70 50 1 13a0;ff41 1a 1 ff21;10428 28 1 10400;104d8 24 1 104b0;
   10597 13 2 10570;10598 5 2 10571;105a4 7 2 1057d;105b4 3 2 1058d;105bc 1 1 10595;
   10cc0 33 1 10c80;118c0 20 1 118a0;16e60 20 1 16e40;1e922 22 1 1e900"

/-- Upper-case images of several characters. -/
def upperExpansions : List (Nat × List Char) := readExpansions
  "df 53 53;149 2bc 4e;1f0 4a 30c;390 399 308 301;3b0 3a5 308 301;587 535 552;1e96 48 331;
   1e97 54 308;1e98 57 30a;1e99 59 30a;1e9a 41 2be;1f50 3a5 313;1f52 3a5 313 300;
   1f54 3a5 313 301;1f56 3a5 313 342;1f80 1f08 399;1f81 1f09 399;1f82 1f0a 399;1f83 1f0b 399;
   1f84 1f0c 399;1f85 1f0d 399;1f86 1f0e 399;1f87 1f0f 399;1f88 1f08 399;1f89 1f09 399;
   1f8a 1f0a 399;1f8b 1f0b 399;1f8c 1f0c 399;1f8d 1f0d 399;1f8e 1f0e 399;1f8f 1f0f 399;
   1f90 1f28 399;1f91 1f29 399;1f92 1f2a 399;1f93 1f2b 399;1f94 1f2c 399;1f95 1f2d 399;
   1f96 1f2e 399;1f97 1f2f 399;1f98 1f28 399;1f99 1f29 399;1f9a 1f2a 399;1f9b 1f2b 399;
   1f9c 1f2c 399;1f9d 1f2d 399;1f9e 1f2e 399;1f9f 1f2f 399;1fa0 1f68 399;1fa1 1f69 399;
   1fa2 1f6a 399;1fa3 1f6b 399;1fa4 1f6c 399;1fa5 1f6d 399;1fa6 1f6e 399;1fa7 1f6f 399;
   1fa8 1f68 399;1fa9 1f69 399;1faa 1f6a 399;1fab 1f6b 399;1fac 1f6c 399;1fad 1f6d 399;
   1fae 1f6e 399;1faf 1f6f 399;1fb2 1fba 399;1fb3 391 399;1fb4 386 399;1fb6 391 342;
   1fb7 391 342 399;1fbc 391 399;1fc2 1fca 399;1fc3 397 399;1fc4 389 399;1fc6 397 342;
   1fc7 397 342 399;1fcc 397 399;1fd2 399 308 300;1fd3 399 308 301;1fd6 399 342;
   1fd7 399 308 342;1fe2 3a5 308 300;1fe3 3a5 308 301;1fe4 3a1 313;1fe6 3a5 342;
   1fe7 3a5 308 342;1ff2 1ffa 399;1ff3 3a9 399;1ff4 38f 399;1ff6 3a9 342;1ff7 3a9 342 399;
   1ffc 3a9 399;fb00 46 46;fb01 46 49;fb02 46 4c;fb03 46 46 49;fb04 46 46 4c;fb05 53 54;
   fb06 53 54;fb13 544 546;fb14 544 535;fb15 544 53b;fb16 54e 546;fb17 544 53d"

/-- Case-folding images beyond ASCII that are one character. -/
def caseFoldRuns : List ShiftRun := ShiftRun.readAll
  "b5 1 1 3bc;c0 17 1 e0;d8 7 1 f8;100 18 2 101;132 3 2 133;139 8 2 13a;14a 17 2 14b;
   178 1 1 ff;179 3 2 17a;17f 1 1 73;181 1 1 253;182 2 2 183;186 1 1 254;187 1 1 188;
   189 2 1 256;18b 1 1 18c;18e 1 1 1dd;18f 1 1 259;190 1 1 25b;191 1 1 192;193 1 1 260;
   194 1 1 263;196 1 1 269;197 1 1 268;198 1 1 199;19c 1 1 26f;19d 1 1 272;19f 1 1 275;
   1a0 3 2 1a1;1a6 1 1 280;1a7 1 1 1a8;1a9 1 1 283;1ac 1 1 1ad;1ae 1 1 288;1af 1 1 1b0;
   1b1 2 1 28a;1b3 2 2 1b4;1b7 1 1 292;1b8 1 1 1b9;1bc 1 1 1bd;1c4 1 1 1c6;1c5 1 1 1c6;
   1c7 1 1 1c9;1c8 1 1 1c9;1ca 1 1 1cc;1cb 9 2 1cc;1de 9 2 1df;1f1 1 1 1f3;1f2 2 2 1f3;
   1f6 1 1 195;1f7 1 1 1bf;1f8 14 2 1f9;220 1 1 19e;222 9 2 223;23a 1 1 2c65;23b 1 1 23c;
   23d 1 1 19a;23e 1 1 2c66;241 1 1 242;243 1 1 180;244 1 1 289;245 1 1 28c;246 5 2 247;
   345 1 1 3b9;370 2 2 371;376 1 1 377;37f 1 1 3f3;386 1 1 3ac;388 3 1 3ad;38c 1 1 3cc;
   38e 2 1 3cd;391 11 1 3b1;3a3 9 1 3c3;3c2 1 1 3c3;3cf 1 1 3d7;3d0 1 1 3b2;3d1 1 1 3b8;
   3d5 1 1 3c6;3d6 1 1 3c0;3d8 c 2 3d9;3f0 1 1 3ba;3f1 1 1 3c1;3f4 1 1 3b8;3f5 1 1 3b5;
   3f7 1 1 3f8;3f9 1 1 3f2;3fa 1 1 3fb;3fd 3 1 37b;400 10 1 450;410 20 1 430;460 11 2 461;
   48a 1b 2 48b;4c0 1 1 4cf;4c1 7 2 4c2;4d0 30 2 4d1;531 26 1 561;10a0 26 1 2d00;10c7 1 1 2d27;
   10cd 1 1 2d2d;13f8 6 1 13f0;1c80 1 1 432;1c81 1 1 434;1c82 1 1 43e;1c83 2 1 441;
   1c85 1 1 442;1c86 1 1 44a;1c87 1 1 463;1c88 1 1 a64b;1c90 2b 1 10d0;1cbd 3 1 10fd;
   1e00 4b 2 1e01;1e9b 1 1 1e61;1ea0 30 2 1ea1;1f08 8 1 1f00;1f18 6 1 1f10;1f28 8 1 1f20;
   1f38 8 1 1f30;1f48 6 1 1f40;1f59 4 2 1f51;1f68 8 1 1f60;1fb8 2 1 1fb0;1fba 2 1 1f70;
   1fbe 1 1 3b9;1fc8 4 1 1f72;1fd8 2 1 1fd0;1fda 2 1 1f76;1fe8 2 1 1fe0;1fea 2 1 1f7a;
   1fec 1 1 1fe5;1ff8 2 1 1f78;1ffa 2 1 1f7c;2126 1 1 3c9;212a 1 1 6b;212b 1 1 e5;
   2132 1 1 214e;2160 10 1 2170;2183 1 1 2184;24b6 1a 1 24d0;2c00 30 1 2c30;2c60 1 1 2c61;
   2c62 1 1 26b;2c63 1 1 1d7d;2c64 1 1 27d;2c67 3 2 2c68;2c6d 1 1 251;2c6e 1 1 271;
   2c6f 1 1 250;2c70 1 1 252;2c72 1 1 2c73;2c75 1 1 2c76;2c7e 2 1 23f;2c80 32 2 2c81;
   2ceb 2 2 2cec;2cf2 1 1 2cf3;a640 17 2 a641;a680 e 2 a681;a722 7 2 a723;a732 1f 2 a733;
   a779 2 2 a77a;a77d 1 1 1d79;a77e 5 2 a77f;a78b 1 1 a78c;a78d 1 1 265;a790 2 2 a791;
   a796 a 2 a797;a7aa 1 1 266;a7ab 1 1 25c;a7ac 1 1 261;a7ad 1 1 26c;a7ae 1 1 26a;a7b0 1 1 29e;
   a7b1 1 1 287;a7b2 1 1 29d;a7b3 1 1 ab53;a7b4 8 2 a7b5;a7c4 1 1 a794;a7c5 1 1 282;
   a7c6 1 1 1d8e;a7c7 2 2 a7c8;a7d0 1 1 a7d1;a7d6 2 2 a7d7;a7f5 1 1 a7f6;ab70 50 1 13a0;
   ff21 1a 1 ff41;10400 28 1 10428;104b0 24 1 104d8;10570 13 2 10597;10571 5 2 10598;
   1057d 7 2 105a4;1058d 3 2 105b4;10595 1 1 105bc;10c80 33 1 10cc0;118a0 20 1 118c0;
   16e40 20 1 16e60;1e900 22 1 1e922"

/-- Case-folding images of several characters. -/
def caseFoldExpansions : List (Nat × List Char) := readExpansions
  "df 73 73;130 69 307;149 2bc 6e;1f0 6a 30c;390 3b9 308 301;3b0 3c5 308 301;587 565 582;
   1e96 68 331;1e97 74 308;1e98 77 30a;1e99 79 30a;1e9a 61 2be;1e9e 73 73;1f50 3c5 313;
   1f52 3c5 313 300;1f54 3c5 313 301;1f56 3c5 313 342;1f80 1f00 3b9;1f81 1f01 3b9;
   1f82 1f02 3b9;1f83 1f03 3b9;1f84 1f04 3b9;1f85 1f05 3b9;1f86 1f06 3b9;1f87 1f07 3b9;
   1f88 1f00 3b9;1f89 1f01 3b9;1f8a 1f02 3b9;1f8b 1f03 3b9;1f8c 1f04 3b9;1f8d 1f05 3b9;
   1f8e 1f06 3b9;1f8f 1f07 3b9;1f90 1f20 3b9;1f91 1f21 3b9;1f92 1f22 3b9;1f93 1f23 3b9;
   1f94 1f24 3b9;1f95 1f25 3b9;1f96 1f26 3b9;1f97 1f27 3b9;1f98 1f20 3b9;1f99 1f21 3b9;
   1f9a 1f22 3b9;1f9b 1f23 3b9;1f9c 1f24 3b9;1f9d 1f25 3b9;1f9e 1f26 3b9;1f9f 1f27 3b9;
   1fa0 1f60 3b9;1fa1 1f61 3b9;1fa2 1f62 3b9;1fa3 1f63 3b9;1fa4 1f64 3b9;1fa5 1f65 3b9;
   1fa6 1f66 3b9;1fa7 1f67 3b9;1fa8 1f60 3b9;1fa9 1f61 3b9;1faa 1f62 3b9;1fab 1f63 3b9;
   1fac 1f64 3b9;1fad 1f65 3b9;1fae 1f66 3b9;1faf 1f67 3b9;1fb2 1f70 3b9;1fb3 3b1 3b9;
   1fb4 3ac 3b9;1fb6 3b1 342;1fb7 3b1 342 3b9;1fbc 3b1 3b9;1fc2 1f74 3b9;1fc3 3b7 3b9;
   1fc4 3ae 3b9;1fc6 3b7 342;1fc7 3b7 342 3b9;1fcc 3b7 3b9;1fd2 3b9 308 300;1fd3 3b9 308 301;
   1fd6 3b9 342;1fd7 3b9 308 342;1fe2 3c5 308 300;1fe3 3c5 308 301;1fe4 3c1 313;1fe6 3c5 342;
   1fe7 3c5 308 342;1ff2 1f7c 3b9;1ff3 3c9 3b9;1ff4 3ce 3b9;1ff6 3c9 342;1ff7 3c9 342 3b9;
   1ffc 3c9 3b9;fb00 66 66;fb01 66 69;fb02 66 6c;fb03 66 66 69;fb04 66 66 6c;fb05 73 74;
   fb06 73 74;fb13 574 576;fb14 574 565;fb15 574 56b;fb16 57e 576;fb17 574 56d"

/-- The lower-case image of one character, taken out of context. -/
def lowerChar (c : Char) : List Char :=
  if isAscii c then [c.toLower]
  else if c.toNat = 0x130 then ['i', Char.ofNat 0x307]
  else [ShiftRun.apply lowerRuns c]

/-- The upper-case image of one character. -/
def upperChar (c : Char) : List Char :=
  if isAscii c then [c.toUpper]
  else (upperExpansions.lookup c.toNat).getD [ShiftRun.apply upperRuns c]

/-- The case-folding image of one character. -/
def caseFoldChar (c : Char) : List Char :=
  if isAscii c then [c.toLower]
  else (caseFoldExpansions.lookup c.toNat).getD [ShiftRun.apply caseFoldRuns c]

/-- The capital sigma, whose lower case depends on where it stands. -/
def capitalSigma : Char := Char.ofNat 0x3A3

/-- Whether the first character of a text that is not skipped is a cased letter. -/
def startsCased (text : List Char) : Bool :=
  match text.find? fun c => !isSkipped c with
  | some c => isCased c
  | none => false

/-- Lower case of a text; `afterCased` says whether a cased letter precedes it. -/
def lowerFrom (afterCased : Bool) : List Char → List Char
  | [] => []
  | c :: rest =>
    let image :=
      if c = capitalSigma then
        [if afterCased && !startsCased rest then Char.ofNat 0x3C2 else Char.ofNat 0x3C3]
      else lowerChar c
    image ++ lowerFrom (if isSkipped c then afterCased else isCased c) rest

/-- Lower case of a text. -/
def lower (text : String) : String := String.ofList (lowerFrom false text.toList)

/-- Upper case of a text. -/
def upper (text : String) : String := String.ofList (text.toList.flatMap upperChar)

/-- The case-insensitive comparison key of a text. -/
def caseFold (text : String) : String := String.ofList (text.toList.flatMap caseFoldChar)

end RowPlan.Text
