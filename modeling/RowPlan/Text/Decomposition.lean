import RowPlan.Text.CharacterClass

/-!
# Base characters

The compatibility decomposition of a character without its combining marks. The table is cut into
pages of 256 characters; a page lists each character that changes, followed by its image. Hangul
syllables are decomposed by arithmetic.
-/

namespace RowPlan.Text

/-- Characters of each page whose decomposition, marks left out, differs from themselves. -/
def decompositionPages : List (Nat × String) := [
  (0x0,
   "a0 20;a8 20;aa 61;af 20;b2 32;b3 33;b4 20;b5 3bc;b8 20;b9 31;ba 6f;bc 31 2044 34;
   bd 31 2044 32;be 33 2044 34;c0 41;c1 41;c2 41;c3 41;c4 41;c5 41;c7 43;c8 45;c9 45;ca 45;
   cb 45;cc 49;cd 49;ce 49;cf 49;d1 4e;d2 4f;d3 4f;d4 4f;d5 4f;d6 4f;d9 55;da 55;db 55;dc 55;
   dd 59;e0 61;e1 61;e2 61;e3 61;e4 61;e5 61;e7 63;e8 65;e9 65;ea 65;eb 65;ec 69;ed 69;ee 69;
   ef 69;f1 6e;f2 6f;f3 6f;f4 6f;f5 6f;f6 6f;f9 75;fa 75;fb 75;fc 75;fd 79;ff 79"),
  (0x1,
   "100 41;101 61;102 41;103 61;104 41;105 61;106 43;107 63;108 43;109 63;10a 43;10b 63;10c 43;
   10d 63;10e 44;10f 64;112 45;113 65;114 45;115 65;116 45;117 65;118 45;119 65;11a 45;11b 65;
   11c 47;11d 67;11e 47;11f 67;120 47;121 67;122 47;123 67;124 48;125 68;128 49;129 69;12a 49;
   12b 69;12c 49;12d 69;12e 49;12f 69;130 49;132 49 4a;133 69 6a;134 4a;135 6a;136 4b;137 6b;
   139 4c;13a 6c;13b 4c;13c 6c;13d 4c;13e 6c;13f 4c b7;140 6c b7;143 4e;144 6e;145 4e;146 6e;
   147 4e;148 6e;149 2bc 6e;14c 4f;14d 6f;14e 4f;14f 6f;150 4f;151 6f;154 52;155 72;156 52;
   157 72;158 52;159 72;15a 53;15b 73;15c 53;15d 73;15e 53;15f 73;160 53;161 73;162 54;163 74;
   164 54;165 74;168 55;169 75;16a 55;16b 75;16c 55;16d 75;16e 55;16f 75;170 55;171 75;172 55;
   173 75;174 57;175 77;176 59;177 79;178 59;179 5a;17a 7a;17b 5a;17c 7a;17d 5a;17e 7a;17f 73;
   1a0 4f;1a1 6f;1af 55;1b0 75;1c4 44 5a;1c5 44 7a;1c6 64 7a;1c7 4c 4a;1c8 4c 6a;1c9 6c 6a;
   1ca 4e 4a;1cb 4e 6a;1cc 6e 6a;1cd 41;1ce 61;1cf 49;1d0 69;1d1 4f;1d2 6f;1d3 55;1d4 75;
   1d5 55;1d6 75;1d7 55;1d8 75;1d9 55;1da 75;1db 55;1dc 75;1de 41;1df 61;1e0 41;1e1 61;1e2 c6;
   1e3 e6;1e6 47;1e7 67;1e8 4b;1e9 6b;1ea 4f;1eb 6f;1ec 4f;1ed 6f;1ee 1b7;1ef 292;1f0 6a;
   1f1 44 5a;1f2 44 7a;1f3 64 7a;1f4 47;1f5 67;1f8 4e;1f9 6e;1fa 41;1fb 61;1fc c6;1fd e6;
   1fe d8;1ff f8"),
  (0x2,
   "200 41;201 61;202 41;203 61;204 45;205 65;206 45;207 65;208 49;209 69;20a 49;20b 69;20c 4f;
   20d 6f;20e 4f;20f 6f;210 52;211 72;212 52;213 72;214 55;215 75;216 55;217 75;218 53;219 73;
   21a 54;21b 74;21e 48;21f 68;226 41;227 61;228 45;229 65;22a 4f;22b 6f;22c 4f;22d 6f;22e 4f;
   22f 6f;230 4f;231 6f;232 59;233 79;2b0 68;2b1 266;2b2 6a;2b3 72;2b4 279;2b5 27b;2b6 281;
   2b7 77;2b8 79;2d8 20;2d9 20;2da 20;2db 20;2dc 20;2dd 20;2e0 263;2e1 6c;2e2 73;2e3 78;2e4 295"),
  (0x3,
   "374 2b9;37a 20;37e 3b;384 20;385 20;386 391;387 b7;388 395;389 397;38a 399;38c 39f;38e 3a5;
   38f 3a9;390 3b9;3aa 399;3ab 3a5;3ac 3b1;3ad 3b5;3ae 3b7;3af 3b9;3b0 3c5;3ca 3b9;3cb 3c5;
   3cc 3bf;3cd 3c5;3ce 3c9;3d0 3b2;3d1 3b8;3d2 3a5;3d3 3a5;3d4 3a5;3d5 3c6;3d6 3c0;3f0 3ba;
   3f1 3c1;3f2 3c2;3f4 398;3f5 3b5;3f9 3a3"),
  (0x4,
   "400 415;401 415;403 413;407 406;40c 41a;40d 418;40e 423;419 418;439 438;450 435;451 435;
   453 433;457 456;45c 43a;45d 438;45e 443;476 474;477 475;4c1 416;4c2 436;4d0 410;4d1 430;
   4d2 410;4d3 430;4d6 415;4d7 435;4da 4d8;4db 4d9;4dc 416;4dd 436;4de 417;4df 437;4e2 418;
   4e3 438;4e4 418;4e5 438;4e6 41e;4e7 43e;4ea 4e8;4eb 4e9;4ec 42d;4ed 44d;4ee 423;4ef 443;
   4f0 423;4f1 443;4f2 423;4f3 443;4f4 427;4f5 447;4f8 42b;4f9 44b"),
  (0x5,
   "587 565 582"),
  (0x6,
   "622 627;623 627;624 648;625 627;626 64a;675 627 674;676 648 674;677 6c7 674;678 64a 674;
   6c0 6d5;6c2 6c1;6d3 6d2"),
  (0x9,
   "929 928;931 930;934 933;958 915;959 916;95a 917;95b 91c;95c 921;95d 922;95e 92b;95f 92f;
   9cb 9c7 9be;9cc 9c7 9d7;9dc 9a1;9dd 9a2;9df 9af"),
  (0xa,
   "a33 a32;a36 a38;a59 a16;a5a a17;a5b a1c;a5e a2b"),
  (0xb,
   "b48 b47 b56;b4b b47 b3e;b4c b47 b57;b5c b21;b5d b22;b94 b92 bd7;bca bc6 bbe;bcb bc7 bbe;
   bcc bc6 bd7"),
  (0xc,
   "c48 c46;cc0 cbf cd5;cc7 cc6 cd5;cc8 cc6 cd6;cca cc6 cc2;ccb cc6 cc2 cd5"),
  (0xd,
   "d4a d46 d3e;d4b d47 d3e;d4c d46 d57;dda dd9;ddc dd9 dcf;ddd dd9 dcf;dde dd9 ddf"),
  (0xe,
   "e33 e4d e32;eb3 ecd eb2;edc eab e99;edd eab ea1"),
  (0xf,
   "f0c f0b;f43 f42 fb7;f4d f4c fb7;f52 f51 fb7;f57 f56 fb7;f5c f5b fb7;f69 f40 fb5;f73 ;f75 ;
   f76 fb2;f77 fb2;f78 fb3;f79 fb3;f81 ;f93 f92 fb7;f9d f9c fb7;fa2 fa1 fb7;fa7 fa6 fb7;
   fac fab fb7;fb9 f90 fb5"),
  (0x10,
   "1026 1025 102e;10fc 10dc"),
  (0x1b,
   "1b06 1b05 1b35;1b08 1b07 1b35;1b0a 1b09 1b35;1b0c 1b0b 1b35;1b0e 1b0d 1b35;1b12 1b11 1b35;
   1b3b 1b3a 1b35;1b3d 1b3c 1b35;1b40 1b3e 1b35;1b41 1b3f 1b35;1b43 1b42 1b35"),
  (0x1d,
   "1d2c 41;1d2d c6;1d2e 42;1d30 44;1d31 45;1d32 18e;1d33 47;1d34 48;1d35 49;1d36 4a;1d37 4b;
   1d38 4c;1d39 4d;1d3a 4e;1d3c 4f;1d3d 222;1d3e 50;1d3f 52;1d40 54;1d41 55;1d42 57;1d43 61;
   1d44 250;1d45 251;1d46 1d02;1d47 62;1d48 64;1d49 65;1d4a 259;1d4b 25b;1d4c 25c;1d4d 67;
   1d4f 6b;1d50 6d;1d51 14b;1d52 6f;1d53 254;1d54 1d16;1d55 1d17;1d56 70;1d57 74;1d58 75;
   1d59 1d1d;1d5a 26f;1d5b 76;1d5c 1d25;1d5d 3b2;1d5e 3b3;1d5f 3b4;1d60 3c6;1d61 3c7;1d62 69;
   1d63 72;1d64 75;1d65 76;1d66 3b2;1d67 3b3;1d68 3c1;1d69 3c6;1d6a 3c7;1d78 43d;1d9b 252;
   1d9c 63;1d9d 255;1d9e f0;1d9f 25c;1da0 66;1da1 25f;1da2 261;1da3 265;1da4 268;1da5 269;
   1da6 26a;1da7 1d7b;1da8 29d;1da9 26d;1daa 1d85;1dab 29f;1dac 271;1dad 270;1dae 272;1daf 273;
   1db0 274;1db1 275;1db2 278;1db3 282;1db4 283;1db5 1ab;1db6 289;1db7 28a;1db8 1d1c;1db9 28b;
   1dba 28c;1dbb 7a;1dbc 290;1dbd 291;1dbe 292;1dbf 3b8"),
  (0x1e,
   "1e00 41;1e01 61;1e02 42;1e03 62;1e04 42;1e05 62;1e06 42;1e07 62;1e08 43;1e09 63;1e0a 44;
   1e0b 64;1e0c 44;1e0d 64;1e0e 44;1e0f 64;1e10 44;1e11 64;1e12 44;1e13 64;1e14 45;1e15 65;
   1e16 45;1e17 65;1e18 45;1e19 65;1e1a 45;1e1b 65;1e1c 45;1e1d 65;1e1e 46;1e1f 66;1e20 47;
   1e21 67;1e22 48;1e23 68;1e24 48;1e25 68;1e26 48;1e27 68;1e28 48;1e29 68;1e2a 48;1e2b 68;
   1e2c 49;1e2d 69;1e2e 49;1e2f 69;1e30 4b;1e31 6b;1e32 4b;1e33 6b;1e34 4b;1e35 6b;1e36 4c;
   1e37 6c;1e38 4c;1e39 6c;1e3a 4c;1e3b 6c;1e3c 4c;1e3d 6c;1e3e 4d;1e3f 6d;1e40 4d;1e41 6d;
   1e42 4d;1e43 6d;1e44 4e;1e45 6e;1e46 4e;1e47 6e;1e48 4e;1e49 6e;1e4a 4e;1e4b 6e;1e4c 4f;
   1e4d 6f;1e4e 4f;1e4f 6f;1e50 4f;1e51 6f;1e52 4f;1e53 6f;1e54 50;1e55 70;1e56 50;1e57 70;
   1e58 52;1e59 72;1e5a 52;1e5b 72;1e5c 52;1e5d 72;1e5e 52;1e5f 72;1e60 53;1e61 73;1e62 53;
   1e63 73;1e64 53;1e65 73;1e66 53;1e67 73;1e68 53;1e69 73;1e6a 54;1e6b 74;1e6c 54;1e6d 74;
   1e6e 54;1e6f 74;1e70 54;1e71 74;1e72 55;1e73 75;1e74 55;1e75 75;1e76 55;1e77 75;1e78 55;
   1e79 75;1e7a 55;1e7b 75;1e7c 56;1e7d 76;1e7e 56;1e7f 76;1e80 57;1e81 77;1e82 57;1e83 77;
   1e84 57;1e85 77;1e86 57;1e87 77;1e88 57;1e89 77;1e8a 58;1e8b 78;1e8c 58;1e8d 78;1e8e 59;
   1e8f 79;1e90 5a;1e91 7a;1e92 5a;1e93 7a;1e94 5a;1e95 7a;1e96 68;1e97 74;1e98 77;1e99 79;
   1e9a 61 2be;1e9b 73;1ea0 41;1ea1 61;1ea2 41;1ea3 61;1ea4 41;1ea5 61;1ea6 41;1ea7 61;1ea8 41;
   1ea9 61;1eaa 41;1eab 61;1eac 41;1ead 61;1eae 41;1eaf 61;1eb0 41;1eb1 61;1eb2 41;1eb3 61;
   1eb4 41;1eb5 61;1eb6 41;1eb7 61;1eb8 45;1eb9 65;1eba 45;1ebb 65;1ebc 45;1ebd 65;1ebe 45;
   1ebf 65;1ec0 45;1ec1 65;1ec2 45;1ec3 65;1ec4 45;1ec5 65;1ec6 45;1ec7 65;1ec8 49;1ec9 69;
   1eca 49;1ecb 69;1ecc 4f;1ecd 6f;1ece 4f;1ecf 6f;1ed0 4f;1ed1 6f;1ed2 4f;1ed3 6f;1ed4 4f;
   1ed5 6f;1ed6 4f;1ed7 6f;1ed8 4f;1ed9 6f;1eda 4f;1edb 6f;1edc 4f;1edd 6f;1ede 4f;1edf 6f;
   1ee0 4f;1ee1 6f;1ee2 4f;1ee3 6f;1ee4 55;1ee5 75;1ee6 55;1ee7 75;1ee8 55;1ee9 75;1eea 55;
   1eeb 75;1eec 55;1eed 75;1eee 55;1eef 75;1ef0 55;1ef1 75;1ef2 59;1ef3 79;1ef4 59;1ef5 79;
   1ef6 59;1ef7 79;1ef8 59;1ef9 79"),
  (0x1f,
   "1f00 3b1;1f01 3b1;1f02 3b1;1f03 3b1;1f04 3b1;1f05 3b1;1f06 3b1;1f07 3b1;1f08 391;1f09 391;
   1f0a 391;1f0b 391;1f0c 391;1f0d 391;1f0e 391;1f0f 391;1f10 3b5;1f11 3b5;1f12 3b5;1f13 3b5;
   1f14 3b5;1f15 3b5;1f18 395;1f19 395;1f1a 395;1f1b 395;1f1c 395;1f1d 395;1f20 3b7;1f21 3b7;
   1f22 3b7;1f23 3b7;1f24 3b7;1f25 3b7;1f26 3b7;1f27 3b7;1f28 397;1f29 397;1f2a 397;1f2b 397;
   1f2c 397;1f2d 397;1f2e 397;1f2f 397;1f30 3b9;1f31 3b9;1f32 3b9;1f33 3b9;1f34 3b9;1f35 3b9;
   1f36 3b9;1f37 3b9;1f38 399;1f39 399;1f3a 399;1f3b 399;1f3c 399;1f3d 399;1f3e 399;1f3f 399;
   1f40 3bf;1f41 3bf;1f42 3bf;1f43 3bf;1f44 3bf;1f45 3bf;1f48 39f;1f49 39f;1f4a 39f;1f4b 39f;
   1f4c 39f;1f4d 39f;1f50 3c5;1f51 3c5;1f52 3c5;1f53 3c5;1f54 3c5;1f55 3c5;1f56 3c5;1f57 3c5;
   1f59 3a5;1f5b 3a5;1f5d 3a5;1f5f 3a5;1f60 3c9;1f61 3c9;1f62 3c9;1f63 3c9;1f64 3c9;1f65 3c9;
   1f66 3c9;1f67 3c9;1f68 3a9;1f69 3a9;1f6a 3a9;1f6b 3a9;1f6c 3a9;1f6d 3a9;1f6e 3a9;1f6f 3a9;
   1f70 3b1;1f71 3b1;1f72 3b5;1f73 3b5;1f74 3b7;1f75 3b7;1f76 3b9;1f77 3b9;1f78 3bf;1f79 3bf;
   1f7a 3c5;1f7b 3c5;1f7c 3c9;1f7d 3c9;1f80 3b1;1f81 3b1;1f82 3b1;1f83 3b1;1f84 3b1;1f85 3b1;
   1f86 3b1;1f87 3b1;1f88 391;1f89 391;1f8a 391;1f8b 391;1f8c 391;1f8d 391;1f8e 391;1f8f 391;
   1f90 3b7;1f91 3b7;1f92 3b7;1f93 3b7;1f94 3b7;1f95 3b7;1f96 3b7;1f97 3b7;1f98 397;1f99 397;
   1f9a 397;1f9b 397;1f9c 397;1f9d 397;1f9e 397;1f9f 397;1fa0 3c9;1fa1 3c9;1fa2 3c9;1fa3 3c9;
   1fa4 3c9;1fa5 3c9;1fa6 3c9;1fa7 3c9;1fa8 3a9;1fa9 3a9;1faa 3a9;1fab 3a9;1fac 3a9;1fad 3a9;
   1fae 3a9;1faf 3a9;1fb0 3b1;1fb1 3b1;1fb2 3b1;1fb3 3b1;1fb4 3b1;1fb6 3b1;1fb7 3b1;1fb8 391;
   1fb9 391;1fba 391;1fbb 391;1fbc 391;1fbd 20;1fbe 3b9;1fbf 20;1fc0 20;1fc1 20;1fc2 3b7;
   1fc3 3b7;1fc4 3b7;1fc6 3b7;1fc7 3b7;1fc8 395;1fc9 395;1fca 397;1fcb 397;1fcc 397;1fcd 20;
   1fce 20;1fcf 20;1fd0 3b9;1fd1 3b9;1fd2 3b9;1fd3 3b9;1fd6 3b9;1fd7 3b9;1fd8 399;1fd9 399;
   1fda 399;1fdb 399;1fdd 20;1fde 20;1fdf 20;1fe0 3c5;1fe1 3c5;1fe2 3c5;1fe3 3c5;1fe4 3c1;
   1fe5 3c1;1fe6 3c5;1fe7 3c5;1fe8 3a5;1fe9 3a5;1fea 3a5;1feb 3a5;1fec 3a1;1fed 20;1fee 20;
   1fef 60;1ff2 3c9;1ff3 3c9;1ff4 3c9;1ff6 3c9;1ff7 3c9;1ff8 39f;1ff9 39f;1ffa 3a9;1ffb 3a9;
   1ffc 3a9;1ffd 20;1ffe 20"),
  (0x20,
   "2000 20;2001 20;2002 20;2003 20;2004 20;2005 20;2006 20;2007 20;2008 20;2009 20;200a 20;
   2011 2010;2017 20;2024 2e;2025 2e 2e;2026 2e 2e 2e;202f 20;2033 2032 2032;
   2034 2032 2032 2032;2036 2035 2035;2037 2035 2035 2035;203c 21 21;203e 20;2047 3f 3f;
   2048 3f 21;2049 21 3f;2057 2032 2032 2032 2032;205f 20;2070 30;2071 69;2074 34;2075 35;
   2076 36;2077 37;2078 38;2079 39;207a 2b;207b 2212;207c 3d;207d 28;207e 29;207f 6e;2080 30;
   2081 31;2082 32;2083 33;2084 34;2085 35;2086 36;2087 37;2088 38;2089 39;208a 2b;208b 2212;
   208c 3d;208d 28;208e 29;2090 61;2091 65;2092 6f;2093 78;2094 259;2095 68;2096 6b;2097 6c;
   2098 6d;2099 6e;209a 70;209b 73;209c 74;20a8 52 73"),
  (0x21,
   "2100 61 2f 63;2101 61 2f 73;2102 43;2103 b0 43;2105 63 2f 6f;2106 63 2f 75;2107 190;
   2109 b0 46;210a 67;210b 48;210c 48;210d 48;210e 68;210f 127;2110 49;2111 49;2112 4c;2113 6c;
   2115 4e;2116 4e 6f;2119 50;211a 51;211b 52;211c 52;211d 52;2120 53 4d;2121 54 45 4c;
   2122 54 4d;2124 5a;2126 3a9;2128 5a;212a 4b;212b 41;212c 42;212d 43;212f 65;2130 45;2131 46;
   2133 4d;2134 6f;2135 5d0;2136 5d1;2137 5d2;2138 5d3;2139 69;213b 46 41 58;213c 3c0;213d 3b3;
   213e 393;213f 3a0;2140 2211;2145 44;2146 64;2147 65;2148 69;2149 6a;2150 31 2044 37;
   2151 31 2044 39;2152 31 2044 31 30;2153 31 2044 33;2154 32 2044 33;2155 31 2044 35;
   2156 32 2044 35;2157 33 2044 35;2158 34 2044 35;2159 31 2044 36;215a 35 2044 36;
   215b 31 2044 38;215c 33 2044 38;215d 35 2044 38;215e 37 2044 38;215f 31 2044;2160 49;
   2161 49 49;2162 49 49 49;2163 49 56;2164 56;2165 56 49;2166 56 49 49;2167 56 49 49 49;
   2168 49 58;2169 58;216a 58 49;216b 58 49 49;216c 4c;216d 43;216e 44;216f 4d;2170 69;
   2171 69 69;2172 69 69 69;2173 69 76;2174 76;2175 76 69;2176 76 69 69;2177 76 69 69 69;
   2178 69 78;2179 78;217a 78 69;217b 78 69 69;217c 6c;217d 63;217e 64;217f 6d;2189 30 2044 33;
   219a 2190;219b 2192;21ae 2194;21cd 21d0;21ce 21d4;21cf 21d2"),
  (0x22,
   "2204 2203;2209 2208;220c 220b;2224 2223;2226 2225;222c 222b 222b;222d 222b 222b 222b;
   222f 222e 222e;2230 222e 222e 222e;2241 223c;2244 2243;2247 2245;2249 2248;2260 3d;
   2262 2261;226d 224d;226e 3c;226f 3e;2270 2264;2271 2265;2274 2272;2275 2273;2278 2276;
   2279 2277;2280 227a;2281 227b;2284 2282;2285 2283;2288 2286;2289 2287;22ac 22a2;22ad 22a8;
   22ae 22a9;22af 22ab;22e0 227c;22e1 227d;22e2 2291;22e3 2292;22ea 22b2;22eb 22b3;22ec 22b4;
   22ed 22b5"),
  (0x23,
   "2329 3008;232a 3009"),
  (0x24,
   "2460 31;2461 32;2462 33;2463 34;2464 35;2465 36;2466 37;2467 38;2468 39;2469 31 30;
   246a 31 31;246b 31 32;246c 31 33;246d 31 34;246e 31 35;246f 31 36;2470 31 37;2471 31 38;
   2472 31 39;2473 32 30;2474 28 31 29;2475 28 32 29;2476 28 33 29;2477 28 34 29;2478 28 35 29;
   2479 28 36 29;247a 28 37 29;247b 28 38 29;247c 28 39 29;247d 28 31 30 29;247e 28 31 31 29;
   247f 28 31 32 29;2480 28 31 33 29;2481 28 31 34 29;2482 28 31 35 29;2483 28 31 36 29;
   2484 28 31 37 29;2485 28 31 38 29;2486 28 31 39 29;2487 28 32 30 29;2488 31 2e;2489 32 2e;
   248a 33 2e;248b 34 2e;248c 35 2e;248d 36 2e;248e 37 2e;248f 38 2e;2490 39 2e;2491 31 30 2e;
   2492 31 31 2e;2493 31 32 2e;2494 31 33 2e;2495 31 34 2e;2496 31 35 2e;2497 31 36 2e;
   2498 31 37 2e;2499 31 38 2e;249a 31 39 2e;249b 32 30 2e;249c 28 61 29;249d 28 62 29;
   249e 28 63 29;249f 28 64 29;24a0 28 65 29;24a1 28 66 29;24a2 28 67 29;24a3 28 68 29;
   24a4 28 69 29;24a5 28 6a 29;24a6 28 6b 29;24a7 28 6c 29;24a8 28 6d 29;24a9 28 6e 29;
   24aa 28 6f 29;24ab 28 70 29;24ac 28 71 29;24ad 28 72 29;24ae 28 73 29;24af 28 74 29;
   24b0 28 75 29;24b1 28 76 29;24b2 28 77 29;24b3 28 78 29;24b4 28 79 29;24b5 28 7a 29;24b6 41;
   24b7 42;24b8 43;24b9 44;24ba 45;24bb 46;24bc 47;24bd 48;24be 49;24bf 4a;24c0 4b;24c1 4c;
   24c2 4d;24c3 4e;24c4 4f;24c5 50;24c6 51;24c7 52;24c8 53;24c9 54;24ca 55;24cb 56;24cc 57;
   24cd 58;24ce 59;24cf 5a;24d0 61;24d1 62;24d2 63;24d3 64;24d4 65;24d5 66;24d6 67;24d7 68;
   24d8 69;24d9 6a;24da 6b;24db 6c;24dc 6d;24dd 6e;24de 6f;24df 70;24e0 71;24e1 72;24e2 73;
   24e3 74;24e4 75;24e5 76;24e6 77;24e7 78;24e8 79;24e9 7a;24ea 30"),
  (0x2a,
   "2a0c 222b 222b 222b 222b;2a74 3a 3a 3d;2a75 3d 3d;2a76 3d 3d 3d;2adc 2add"),
  (0x2c,
   "2c7c 6a;2c7d 56"),
  (0x2d,
   "2d6f 2d61"),
  (0x2e,
   "2e9f 6bcd;2ef3 9f9f"),
  (0x2f,
   "2f00 4e00;2f01 4e28;2f02 4e36;2f03 4e3f;2f04 4e59;2f05 4e85;2f06 4e8c;2f07 4ea0;2f08 4eba;
   2f09 513f;2f0a 5165;2f0b 516b;2f0c 5182;2f0d 5196;2f0e 51ab;2f0f 51e0;2f10 51f5;2f11 5200;
   2f12 529b;2f13 52f9;2f14 5315;2f15 531a;2f16 5338;2f17 5341;2f18 535c;2f19 5369;2f1a 5382;
   2f1b 53b6;2f1c 53c8;2f1d 53e3;2f1e 56d7;2f1f 571f;2f20 58eb;2f21 5902;2f22 590a;2f23 5915;
   2f24 5927;2f25 5973;2f26 5b50;2f27 5b80;2f28 5bf8;2f29 5c0f;2f2a 5c22;2f2b 5c38;2f2c 5c6e;
   2f2d 5c71;2f2e 5ddb;2f2f 5de5;2f30 5df1;2f31 5dfe;2f32 5e72;2f33 5e7a;2f34 5e7f;2f35 5ef4;
   2f36 5efe;2f37 5f0b;2f38 5f13;2f39 5f50;2f3a 5f61;2f3b 5f73;2f3c 5fc3;2f3d 6208;2f3e 6236;
   2f3f 624b;2f40 652f;2f41 6534;2f42 6587;2f43 6597;2f44 65a4;2f45 65b9;2f46 65e0;2f47 65e5;
   2f48 66f0;2f49 6708;2f4a 6728;2f4b 6b20;2f4c 6b62;2f4d 6b79;2f4e 6bb3;2f4f 6bcb;2f50 6bd4;
   2f51 6bdb;2f52 6c0f;2f53 6c14;2f54 6c34;2f55 706b;2f56 722a;2f57 7236;2f58 723b;2f59 723f;
   2f5a 7247;2f5b 7259;2f5c 725b;2f5d 72ac;2f5e 7384;2f5f 7389;2f60 74dc;2f61 74e6;2f62 7518;
   2f63 751f;2f64 7528;2f65 7530;2f66 758b;2f67 7592;2f68 7676;2f69 767d;2f6a 76ae;2f6b 76bf;
   2f6c 76ee;2f6d 77db;2f6e 77e2;2f6f 77f3;2f70 793a;2f71 79b8;2f72 79be;2f73 7a74;2f74 7acb;
   2f75 7af9;2f76 7c73;2f77 7cf8;2f78 7f36;2f79 7f51;2f7a 7f8a;2f7b 7fbd;2f7c 8001;2f7d 800c;
   2f7e 8012;2f7f 8033;2f80 807f;2f81 8089;2f82 81e3;2f83 81ea;2f84 81f3;2f85 81fc;2f86 820c;
   2f87 821b;2f88 821f;2f89 826e;2f8a 8272;2f8b 8278;2f8c 864d;2f8d 866b;2f8e 8840;2f8f 884c;
   2f90 8863;2f91 897e;2f92 898b;2f93 89d2;2f94 8a00;2f95 8c37;2f96 8c46;2f97 8c55;2f98 8c78;
   2f99 8c9d;2f9a 8d64;2f9b 8d70;2f9c 8db3;2f9d 8eab;2f9e 8eca;2f9f 8f9b;2fa0 8fb0;2fa1 8fb5;
   2fa2 9091;2fa3 9149;2fa4 91c6;2fa5 91cc;2fa6 91d1;2fa7 9577;2fa8 9580;2fa9 961c;2faa 96b6;
   2fab 96b9;2fac 96e8;2fad 9751;2fae 975e;2faf 9762;2fb0 9769;2fb1 97cb;2fb2 97ed;2fb3 97f3;
   2fb4 9801;2fb5 98a8;2fb6 98db;2fb7 98df;2fb8 9996;2fb9 9999;2fba 99ac;2fbb 9aa8;2fbc 9ad8;
   2fbd 9adf;2fbe 9b25;2fbf 9b2f;2fc0 9b32;2fc1 9b3c;2fc2 9b5a;2fc3 9ce5;2fc4 9e75;2fc5 9e7f;
   2fc6 9ea5;2fc7 9ebb;2fc8 9ec3;2fc9 9ecd;2fca 9ed1;2fcb 9ef9;2fcc 9efd;2fcd 9f0e;2fce 9f13;
   2fcf 9f20;2fd0 9f3b;2fd1 9f4a;2fd2 9f52;2fd3 9f8d;2fd4 9f9c;2fd5 9fa0"),
  (0x30,
   "3000 20;3036 3012;3038 5341;3039 5344;303a 5345;304c 304b;304e 304d;3050 304f;3052 3051;
   3054 3053;3056 3055;3058 3057;305a 3059;305c 305b;305e 305d;3060 305f;3062 3061;3065 3064;
   3067 3066;3069 3068;3070 306f;3071 306f;3073 3072;3074 3072;3076 3075;3077 3075;3079 3078;
   307a 3078;307c 307b;307d 307b;3094 3046;309b 20;309c 20;309e 309d;309f 3088 308a;30ac 30ab;
   30ae 30ad;30b0 30af;30b2 30b1;30b4 30b3;30b6 30b5;30b8 30b7;30ba 30b9;30bc 30bb;30be 30bd;
   30c0 30bf;30c2 30c1;30c5 30c4;30c7 30c6;30c9 30c8;30d0 30cf;30d1 30cf;30d3 30d2;30d4 30d2;
   30d6 30d5;30d7 30d5;30d9 30d8;30da 30d8;30dc 30db;30dd 30db;30f4 30a6;30f7 30ef;30f8 30f0;
   30f9 30f1;30fa 30f2;30fe 30fd;30ff 30b3 30c8"),
  (0x31,
   "3131 1100;3132 1101;3133 11aa;3134 1102;3135 11ac;3136 11ad;3137 1103;3138 1104;3139 1105;
   313a 11b0;313b 11b1;313c 11b2;313d 11b3;313e 11b4;313f 11b5;3140 111a;3141 1106;3142 1107;
   3143 1108;3144 1121;3145 1109;3146 110a;3147 110b;3148 110c;3149 110d;314a 110e;314b 110f;
   314c 1110;314d 1111;314e 1112;314f 1161;3150 1162;3151 1163;3152 1164;3153 1165;3154 1166;
   3155 1167;3156 1168;3157 1169;3158 116a;3159 116b;315a 116c;315b 116d;315c 116e;315d 116f;
   315e 1170;315f 1171;3160 1172;3161 1173;3162 1174;3163 1175;3164 1160;3165 1114;3166 1115;
   3167 11c7;3168 11c8;3169 11cc;316a 11ce;316b 11d3;316c 11d7;316d 11d9;316e 111c;316f 11dd;
   3170 11df;3171 111d;3172 111e;3173 1120;3174 1122;3175 1123;3176 1127;3177 1129;3178 112b;
   3179 112c;317a 112d;317b 112e;317c 112f;317d 1132;317e 1136;317f 1140;3180 1147;3181 114c;
   3182 11f1;3183 11f2;3184 1157;3185 1158;3186 1159;3187 1184;3188 1185;3189 1188;318a 1191;
   318b 1192;318c 1194;318d 119e;318e 11a1;3192 4e00;3193 4e8c;3194 4e09;3195 56db;3196 4e0a;
   3197 4e2d;3198 4e0b;3199 7532;319a 4e59;319b 4e19;319c 4e01;319d 5929;319e 5730;319f 4eba"),
  (0x32,
   "3200 28 1100 29;3201 28 1102 29;3202 28 1103 29;3203 28 1105 29;3204 28 1106 29;
   3205 28 1107 29;3206 28 1109 29;3207 28 110b 29;3208 28 110c 29;3209 28 110e 29;
   320a 28 110f 29;320b 28 1110 29;320c 28 1111 29;320d 28 1112 29;320e 28 1100 1161 29;
   320f 28 1102 1161 29;3210 28 1103 1161 29;3211 28 1105 1161 29;3212 28 1106 1161 29;
   3213 28 1107 1161 29;3214 28 1109 1161 29;3215 28 110b 1161 29;3216 28 110c 1161 29;
   3217 28 110e 1161 29;3218 28 110f 1161 29;3219 28 1110 1161 29;321a 28 1111 1161 29;
   321b 28 1112 1161 29;321c 28 110c 116e 29;321d 28 110b 1169 110c 1165 11ab 29;
   321e 28 110b 1169 1112 116e 29;3220 28 4e00 29;3221 28 4e8c 29;3222 28 4e09 29;
   3223 28 56db 29;3224 28 4e94 29;3225 28 516d 29;3226 28 4e03 29;3227 28 516b 29;
   3228 28 4e5d 29;3229 28 5341 29;322a 28 6708 29;322b 28 706b 29;322c 28 6c34 29;
   322d 28 6728 29;322e 28 91d1 29;322f 28 571f 29;3230 28 65e5 29;3231 28 682a 29;
   3232 28 6709 29;3233 28 793e 29;3234 28 540d 29;3235 28 7279 29;3236 28 8ca1 29;
   3237 28 795d 29;3238 28 52b4 29;3239 28 4ee3 29;323a 28 547c 29;323b 28 5b66 29;
   323c 28 76e3 29;323d 28 4f01 29;323e 28 8cc7 29;323f 28 5354 29;3240 28 796d 29;
   3241 28 4f11 29;3242 28 81ea 29;3243 28 81f3 29;3244 554f;3245 5e7c;3246 6587;3247 7b8f;
   3250 50 54 45;3251 32 31;3252 32 32;3253 32 33;3254 32 34;3255 32 35;3256 32 36;3257 32 37;
   3258 32 38;3259 32 39;325a 33 30;325b 33 31;325c 33 32;325d 33 33;325e 33 34;325f 33 35;
   3260 1100;3261 1102;3262 1103;3263 1105;3264 1106;3265 1107;3266 1109;3267 110b;3268 110c;
   3269 110e;326a 110f;326b 1110;326c 1111;326d 1112;326e 1100 1161;326f 1102 1161;
   3270 1103 1161;3271 1105 1161;3272 1106 1161;3273 1107 1161;3274 1109 1161;3275 110b 1161;
   3276 110c 1161;3277 110e 1161;3278 110f 1161;3279 1110 1161;327a 1111 1161;327b 1112 1161;
   327c 110e 1161 11b7 1100 1169;327d 110c 116e 110b 1174;327e 110b 116e;3280 4e00;3281 4e8c;
   3282 4e09;3283 56db;3284 4e94;3285 516d;3286 4e03;3287 516b;3288 4e5d;3289 5341;328a 6708;
   328b 706b;328c 6c34;328d 6728;328e 91d1;328f 571f;3290 65e5;3291 682a;3292 6709;3293 793e;
   3294 540d;3295 7279;3296 8ca1;3297 795d;3298 52b4;3299 79d8;329a 7537;329b 5973;329c 9069;
   329d 512a;329e 5370;329f 6ce8;32a0 9805;32a1 4f11;32a2 5199;32a3 6b63;32a4 4e0a;32a5 4e2d;
   32a6 4e0b;32a7 5de6;32a8 53f3;32a9 533b;32aa 5b97;32ab 5b66;32ac 76e3;32ad 4f01;32ae 8cc7;
   32af 5354;32b0 591c;32b1 33 36;32b2 33 37;32b3 33 38;32b4 33 39;32b5 34 30;32b6 34 31;
   32b7 34 32;32b8 34 33;32b9 34 34;32ba 34 35;32bb 34 36;32bc 34 37;32bd 34 38;32be 34 39;
   32bf 35 30;32c0 31 6708;32c1 32 6708;32c2 33 6708;32c3 34 6708;32c4 35 6708;32c5 36 6708;
   32c6 37 6708;32c7 38 6708;32c8 39 6708;32c9 31 30 6708;32ca 31 31 6708;32cb 31 32 6708;
   32cc 48 67;32cd 65 72 67;32ce 65 56;32cf 4c 54 44;32d0 30a2;32d1 30a4;32d2 30a6;32d3 30a8;
   32d4 30aa;32d5 30ab;32d6 30ad;32d7 30af;32d8 30b1;32d9 30b3;32da 30b5;32db 30b7;32dc 30b9;
   32dd 30bb;32de 30bd;32df 30bf;32e0 30c1;32e1 30c4;32e2 30c6;32e3 30c8;32e4 30ca;32e5 30cb;
   32e6 30cc;32e7 30cd;32e8 30ce;32e9 30cf;32ea 30d2;32eb 30d5;32ec 30d8;32ed 30db;32ee 30de;
   32ef 30df;32f0 30e0;32f1 30e1;32f2 30e2;32f3 30e4;32f4 30e6;32f5 30e8;32f6 30e9;32f7 30ea;
   32f8 30eb;32f9 30ec;32fa 30ed;32fb 30ef;32fc 30f0;32fd 30f1;32fe 30f2;32ff 4ee4 548c"),
  (0x33,
   "3300 30a2 30cf 30fc 30c8;3301 30a2 30eb 30d5 30a1;3302 30a2 30f3 30d8 30a2;
   3303 30a2 30fc 30eb;3304 30a4 30cb 30f3 30af;3305 30a4 30f3 30c1;3306 30a6 30a9 30f3;
   3307 30a8 30b9 30af 30fc 30c8;3308 30a8 30fc 30ab 30fc;3309 30aa 30f3 30b9;
   330a 30aa 30fc 30e0;330b 30ab 30a4 30ea;330c 30ab 30e9 30c3 30c8;330d 30ab 30ed 30ea 30fc;
   330e 30ab 30ed 30f3;330f 30ab 30f3 30de;3310 30ad 30ab;3311 30ad 30cb 30fc;
   3312 30ad 30e5 30ea 30fc;3313 30ad 30eb 30bf 30fc;3314 30ad 30ed;
   3315 30ad 30ed 30af 30e9 30e0;3316 30ad 30ed 30e1 30fc 30c8 30eb;
   3317 30ad 30ed 30ef 30c3 30c8;3318 30af 30e9 30e0;3319 30af 30e9 30e0 30c8 30f3;
   331a 30af 30eb 30bb 30a4 30ed;331b 30af 30ed 30fc 30cd;331c 30b1 30fc 30b9;
   331d 30b3 30eb 30ca;331e 30b3 30fc 30db;331f 30b5 30a4 30af 30eb;
   3320 30b5 30f3 30c1 30fc 30e0;3321 30b7 30ea 30f3 30af;3322 30bb 30f3 30c1;
   3323 30bb 30f3 30c8;3324 30bf 30fc 30b9;3325 30c6 30b7;3326 30c8 30eb;3327 30c8 30f3;
   3328 30ca 30ce;3329 30ce 30c3 30c8;332a 30cf 30a4 30c4;332b 30cf 30fc 30bb 30f3 30c8;
   332c 30cf 30fc 30c4;332d 30cf 30fc 30ec 30eb;332e 30d2 30a2 30b9 30c8 30eb;
   332f 30d2 30af 30eb;3330 30d2 30b3;3331 30d2 30eb;3332 30d5 30a1 30e9 30c3 30c8;
   3333 30d5 30a3 30fc 30c8;3334 30d5 30c3 30b7 30a7 30eb;3335 30d5 30e9 30f3;
   3336 30d8 30af 30bf 30fc 30eb;3337 30d8 30bd;3338 30d8 30cb 30d2;3339 30d8 30eb 30c4;
   333a 30d8 30f3 30b9;333b 30d8 30fc 30b7;333c 30d8 30fc 30bf;333d 30db 30a4 30f3 30c8;
   333e 30db 30eb 30c8;333f 30db 30f3;3340 30db 30f3 30c8;3341 30db 30fc 30eb;
   3342 30db 30fc 30f3;3343 30de 30a4 30af 30ed;3344 30de 30a4 30eb;3345 30de 30c3 30cf;
   3346 30de 30eb 30af;3347 30de 30f3 30b7 30e7 30f3;3348 30df 30af 30ed 30f3;3349 30df 30ea;
   334a 30df 30ea 30cf 30fc 30eb;334b 30e1 30ab;334c 30e1 30ab 30c8 30f3;
   334d 30e1 30fc 30c8 30eb;334e 30e4 30fc 30c8;334f 30e4 30fc 30eb;3350 30e6 30a2 30f3;
   3351 30ea 30c3 30c8 30eb;3352 30ea 30e9;3353 30eb 30d2 30fc;3354 30eb 30fc 30d5 30eb;
   3355 30ec 30e0;3356 30ec 30f3 30c8 30b1 30f3;3357 30ef 30c3 30c8;3358 30 70b9;3359 31 70b9;
   335a 32 70b9;335b 33 70b9;335c 34 70b9;335d 35 70b9;335e 36 70b9;335f 37 70b9;3360 38 70b9;
   3361 39 70b9;3362 31 30 70b9;3363 31 31 70b9;3364 31 32 70b9;3365 31 33 70b9;
   3366 31 34 70b9;3367 31 35 70b9;3368 31 36 70b9;3369 31 37 70b9;336a 31 38 70b9;
   336b 31 39 70b9;336c 32 30 70b9;336d 32 31 70b9;336e 32 32 70b9;336f 32 33 70b9;
   3370 32 34 70b9;3371 68 50 61;3372 64 61;3373 41 55;3374 62 61 72;3375 6f 56;3376 70 63;
   3377 64 6d;3378 64 6d 32;3379 64 6d 33;337a 49 55;337b 5e73 6210;337c 662d 548c;
   337d 5927 6b63;337e 660e 6cbb;337f 682a 5f0f 4f1a 793e;3380 70 41;3381 6e 41;3382 3bc 41;
   3383 6d 41;3384 6b 41;3385 4b 42;3386 4d 42;3387 47 42;3388 63 61 6c;3389 6b 63 61 6c;
   338a 70 46;338b 6e 46;338c 3bc 46;338d 3bc 67;338e 6d 67;338f 6b 67;3390 48 7a;
   3391 6b 48 7a;3392 4d 48 7a;3393 47 48 7a;3394 54 48 7a;3395 3bc 6c;3396 6d 6c;3397 64 6c;
   3398 6b 6c;3399 66 6d;339a 6e 6d;339b 3bc 6d;339c 6d 6d;339d 63 6d;339e 6b 6d;339f 6d 6d 32;
   33a0 63 6d 32;33a1 6d 32;33a2 6b 6d 32;33a3 6d 6d 33;33a4 63 6d 33;33a5 6d 33;33a6 6b 6d 33;
   33a7 6d 2215 73;33a8 6d 2215 73 32;33a9 50 61;33aa 6b 50 61;33ab 4d 50 61;33ac 47 50 61;
   33ad 72 61 64;33ae 72 61 64 2215 73;33af 72 61 64 2215 73 32;33b0 70 73;33b1 6e 73;
   33b2 3bc 73;33b3 6d 73;33b4 70 56;33b5 6e 56;33b6 3bc 56;33b7 6d 56;33b8 6b 56;33b9 4d 56;
   33ba 70 57;33bb 6e 57;33bc 3bc 57;33bd 6d 57;33be 6b 57;33bf 4d 57;33c0 6b 3a9;33c1 4d 3a9;
   33c2 61 2e 6d 2e;33c3 42 71;33c4 63 63;33c5 63 64;33c6 43 2215 6b 67;33c7 43 6f 2e;
   33c8 64 42;33c9 47 79;33ca 68 61;33cb 48 50;33cc 69 6e;33cd 4b 4b;33ce 4b 4d;33cf 6b 74;
   33d0 6c 6d;33d1 6c 6e;33d2 6c 6f 67;33d3 6c 78;33d4 6d 62;33d5 6d 69 6c;33d6 6d 6f 6c;
   33d7 50 48;33d8 70 2e 6d 2e;33d9 50 50 4d;33da 50 52;33db 73 72;33dc 53 76;33dd 57 62;
   33de 56 2215 6d;33df 41 2215 6d;33e0 31 65e5;33e1 32 65e5;33e2 33 65e5;33e3 34 65e5;
   33e4 35 65e5;33e5 36 65e5;33e6 37 65e5;33e7 38 65e5;33e8 39 65e5;33e9 31 30 65e5;
   33ea 31 31 65e5;33eb 31 32 65e5;33ec 31 33 65e5;33ed 31 34 65e5;33ee 31 35 65e5;
   33ef 31 36 65e5;33f0 31 37 65e5;33f1 31 38 65e5;33f2 31 39 65e5;33f3 32 30 65e5;
   33f4 32 31 65e5;33f5 32 32 65e5;33f6 32 33 65e5;33f7 32 34 65e5;33f8 32 35 65e5;
   33f9 32 36 65e5;33fa 32 37 65e5;33fb 32 38 65e5;33fc 32 39 65e5;33fd 33 30 65e5;
   33fe 33 31 65e5;33ff 67 61 6c"),
  (0xa6,
   "a69c 44a;a69d 44c"),
  (0xa7,
   "a770 a76f;a7f2 43;a7f3 46;a7f4 51;a7f8 126;a7f9 153"),
  (0xab,
   "ab5c a727;ab5d ab37;ab5e 26b;ab5f ab52;ab69 28d"),
  (0xf9,
   "f900 8c48;f901 66f4;f902 8eca;f903 8cc8;f904 6ed1;f905 4e32;f906 53e5;f907 9f9c;f908 9f9c;
   f909 5951;f90a 91d1;f90b 5587;f90c 5948;f90d 61f6;f90e 7669;f90f 7f85;f910 863f;f911 87ba;
   f912 88f8;f913 908f;f914 6a02;f915 6d1b;f916 70d9;f917 73de;f918 843d;f919 916a;f91a 99f1;
   f91b 4e82;f91c 5375;f91d 6b04;f91e 721b;f91f 862d;f920 9e1e;f921 5d50;f922 6feb;f923 85cd;
   f924 8964;f925 62c9;f926 81d8;f927 881f;f928 5eca;f929 6717;f92a 6d6a;f92b 72fc;f92c 90ce;
   f92d 4f86;f92e 51b7;f92f 52de;f930 64c4;f931 6ad3;f932 7210;f933 76e7;f934 8001;f935 8606;
   f936 865c;f937 8def;f938 9732;f939 9b6f;f93a 9dfa;f93b 788c;f93c 797f;f93d 7da0;f93e 83c9;
   f93f 9304;f940 9e7f;f941 8ad6;f942 58df;f943 5f04;f944 7c60;f945 807e;f946 7262;f947 78ca;
   f948 8cc2;f949 96f7;f94a 58d8;f94b 5c62;f94c 6a13;f94d 6dda;f94e 6f0f;f94f 7d2f;f950 7e37;
   f951 964b;f952 52d2;f953 808b;f954 51dc;f955 51cc;f956 7a1c;f957 7dbe;f958 83f1;f959 9675;
   f95a 8b80;f95b 62cf;f95c 6a02;f95d 8afe;f95e 4e39;f95f 5be7;f960 6012;f961 7387;f962 7570;
   f963 5317;f964 78fb;f965 4fbf;f966 5fa9;f967 4e0d;f968 6ccc;f969 6578;f96a 7d22;f96b 53c3;
   f96c 585e;f96d 7701;f96e 8449;f96f 8aaa;f970 6bba;f971 8fb0;f972 6c88;f973 62fe;f974 82e5;
   f975 63a0;f976 7565;f977 4eae;f978 5169;f979 51c9;f97a 6881;f97b 7ce7;f97c 826f;f97d 8ad2;
   f97e 91cf;f97f 52f5;f980 5442;f981 5973;f982 5eec;f983 65c5;f984 6ffe;f985 792a;f986 95ad;
   f987 9a6a;f988 9e97;f989 9ece;f98a 529b;f98b 66c6;f98c 6b77;f98d 8f62;f98e 5e74;f98f 6190;
   f990 6200;f991 649a;f992 6f23;f993 7149;f994 7489;f995 79ca;f996 7df4;f997 806f;f998 8f26;
   f999 84ee;f99a 9023;f99b 934a;f99c 5217;f99d 52a3;f99e 54bd;f99f 70c8;f9a0 88c2;f9a1 8aaa;
   f9a2 5ec9;f9a3 5ff5;f9a4 637b;f9a5 6bae;f9a6 7c3e;f9a7 7375;f9a8 4ee4;f9a9 56f9;f9aa 5be7;
   f9ab 5dba;f9ac 601c;f9ad 73b2;f9ae 7469;f9af 7f9a;f9b0 8046;f9b1 9234;f9b2 96f6;f9b3 9748;
   f9b4 9818;f9b5 4f8b;f9b6 79ae;f9b7 91b4;f9b8 96b8;f9b9 60e1;f9ba 4e86;f9bb 50da;f9bc 5bee;
   f9bd 5c3f;f9be 6599;f9bf 6a02;f9c0 71ce;f9c1 7642;f9c2 84fc;f9c3 907c;f9c4 9f8d;f9c5 6688;
   f9c6 962e;f9c7 5289;f9c8 677b;f9c9 67f3;f9ca 6d41;f9cb 6e9c;f9cc 7409;f9cd 7559;f9ce 786b;
   f9cf 7d10;f9d0 985e;f9d1 516d;f9d2 622e;f9d3 9678;f9d4 502b;f9d5 5d19;f9d6 6dea;f9d7 8f2a;
   f9d8 5f8b;f9d9 6144;f9da 6817;f9db 7387;f9dc 9686;f9dd 5229;f9de 540f;f9df 5c65;f9e0 6613;
   f9e1 674e;f9e2 68a8;f9e3 6ce5;f9e4 7406;f9e5 75e2;f9e6 7f79;f9e7 88cf;f9e8 88e1;f9e9 91cc;
   f9ea 96e2;f9eb 533f;f9ec 6eba;f9ed 541d;f9ee 71d0;f9ef 7498;f9f0 85fa;f9f1 96a3;f9f2 9c57;
   f9f3 9e9f;f9f4 6797;f9f5 6dcb;f9f6 81e8;f9f7 7acb;f9f8 7b20;f9f9 7c92;f9fa 72c0;f9fb 7099;
   f9fc 8b58;f9fd 4ec0;f9fe 8336;f9ff 523a"),
  (0xfa,
   "fa00 5207;fa01 5ea6;fa02 62d3;fa03 7cd6;fa04 5b85;fa05 6d1e;fa06 66b4;fa07 8f3b;fa08 884c;
   fa09 964d;fa0a 898b;fa0b 5ed3;fa0c 5140;fa0d 55c0;fa10 585a;fa12 6674;fa15 51de;fa16 732a;
   fa17 76ca;fa18 793c;fa19 795e;fa1a 7965;fa1b 798f;fa1c 9756;fa1d 7cbe;fa1e 7fbd;fa20 8612;
   fa22 8af8;fa25 9038;fa26 90fd;fa2a 98ef;fa2b 98fc;fa2c 9928;fa2d 9db4;fa2e 90de;fa2f 96b7;
   fa30 4fae;fa31 50e7;fa32 514d;fa33 52c9;fa34 52e4;fa35 5351;fa36 559d;fa37 5606;fa38 5668;
   fa39 5840;fa3a 58a8;fa3b 5c64;fa3c 5c6e;fa3d 6094;fa3e 6168;fa3f 618e;fa40 61f2;fa41 654f;
   fa42 65e2;fa43 6691;fa44 6885;fa45 6d77;fa46 6e1a;fa47 6f22;fa48 716e;fa49 722b;fa4a 7422;
   fa4b 7891;fa4c 793e;fa4d 7949;fa4e 7948;fa4f 7950;fa50 7956;fa51 795d;fa52 798d;fa53 798e;
   fa54 7a40;fa55 7a81;fa56 7bc0;fa57 7df4;fa58 7e09;fa59 7e41;fa5a 7f72;fa5b 8005;fa5c 81ed;
   fa5d 8279;fa5e 8279;fa5f 8457;fa60 8910;fa61 8996;fa62 8b01;fa63 8b39;fa64 8cd3;fa65 8d08;
   fa66 8fb6;fa67 9038;fa68 96e3;fa69 97ff;fa6a 983b;fa6b 6075;fa6c 242ee;fa6d 8218;fa70 4e26;
   fa71 51b5;fa72 5168;fa73 4f80;fa74 5145;fa75 5180;fa76 52c7;fa77 52fa;fa78 559d;fa79 5555;
   fa7a 5599;fa7b 55e2;fa7c 585a;fa7d 58b3;fa7e 5944;fa7f 5954;fa80 5a62;fa81 5b28;fa82 5ed2;
   fa83 5ed9;fa84 5f69;fa85 5fad;fa86 60d8;fa87 614e;fa88 6108;fa89 618e;fa8a 6160;fa8b 61f2;
   fa8c 6234;fa8d 63c4;fa8e 641c;fa8f 6452;fa90 6556;fa91 6674;fa92 6717;fa93 671b;fa94 6756;
   fa95 6b79;fa96 6bba;fa97 6d41;fa98 6edb;fa99 6ecb;fa9a 6f22;fa9b 701e;fa9c 716e;fa9d 77a7;
   fa9e 7235;fa9f 72af;faa0 732a;faa1 7471;faa2 7506;faa3 753b;faa4 761d;faa5 761f;faa6 76ca;
   faa7 76db;faa8 76f4;faa9 774a;faaa 7740;faab 78cc;faac 7ab1;faad 7bc0;faae 7c7b;faaf 7d5b;
   fab0 7df4;fab1 7f3e;fab2 8005;fab3 8352;fab4 83ef;fab5 8779;fab6 8941;fab7 8986;fab8 8996;
   fab9 8abf;faba 8af8;fabb 8acb;fabc 8b01;fabd 8afe;fabe 8aed;fabf 8b39;fac0 8b8a;fac1 8d08;
   fac2 8f38;fac3 9072;fac4 9199;fac5 9276;fac6 967c;fac7 96e3;fac8 9756;fac9 97db;faca 97ff;
   facb 980b;facc 983b;facd 9b12;face 9f9c;facf 2284a;fad0 22844;fad1 233d5;fad2 3b9d;
   fad3 4018;fad4 4039;fad5 25249;fad6 25cd0;fad7 27ed3;fad8 9f43;fad9 9f8e"),
  (0xfb,
   "fb00 66 66;fb01 66 69;fb02 66 6c;fb03 66 66 69;fb04 66 66 6c;fb05 73 74;fb06 73 74;
   fb13 574 576;fb14 574 565;fb15 574 56b;fb16 57e 576;fb17 574 56d;fb1d 5d9;fb1f 5f2;fb20 5e2;
   fb21 5d0;fb22 5d3;fb23 5d4;fb24 5db;fb25 5dc;fb26 5dd;fb27 5e8;fb28 5ea;fb29 2b;fb2a 5e9;
   fb2b 5e9;fb2c 5e9;fb2d 5e9;fb2e 5d0;fb2f 5d0;fb30 5d0;fb31 5d1;fb32 5d2;fb33 5d3;fb34 5d4;
   fb35 5d5;fb36 5d6;fb38 5d8;fb39 5d9;fb3a 5da;fb3b 5db;fb3c 5dc;fb3e 5de;fb40 5e0;fb41 5e1;
   fb43 5e3;fb44 5e4;fb46 5e6;fb47 5e7;fb48 5e8;fb49 5e9;fb4a 5ea;fb4b 5d5;fb4c 5d1;fb4d 5db;
   fb4e 5e4;fb4f 5d0 5dc;fb50 671;fb51 671;fb52 67b;fb53 67b;fb54 67b;fb55 67b;fb56 67e;
   fb57 67e;fb58 67e;fb59 67e;fb5a 680;fb5b 680;fb5c 680;fb5d 680;fb5e 67a;fb5f 67a;fb60 67a;
   fb61 67a;fb62 67f;fb63 67f;fb64 67f;fb65 67f;fb66 679;fb67 679;fb68 679;fb69 679;fb6a 6a4;
   fb6b 6a4;fb6c 6a4;fb6d 6a4;fb6e 6a6;fb6f 6a6;fb70 6a6;fb71 6a6;fb72 684;fb73 684;fb74 684;
   fb75 684;fb76 683;fb77 683;fb78 683;fb79 683;fb7a 686;fb7b 686;fb7c 686;fb7d 686;fb7e 687;
   fb7f 687;fb80 687;fb81 687;fb82 68d;fb83 68d;fb84 68c;fb85 68c;fb86 68e;fb87 68e;fb88 688;
   fb89 688;fb8a 698;fb8b 698;fb8c 691;fb8d 691;fb8e 6a9;fb8f 6a9;fb90 6a9;fb91 6a9;fb92 6af;
   fb93 6af;fb94 6af;fb95 6af;fb96 6b3;fb97 6b3;fb98 6b3;fb99 6b3;fb9a 6b1;fb9b 6b1;fb9c 6b1;
   fb9d 6b1;fb9e 6ba;fb9f 6ba;fba0 6bb;fba1 6bb;fba2 6bb;fba3 6bb;fba4 6d5;fba5 6d5;fba6 6c1;
   fba7 6c1;fba8 6c1;fba9 6c1;fbaa 6be;fbab 6be;fbac 6be;fbad 6be;fbae 6d2;fbaf 6d2;fbb0 6d2;
   fbb1 6d2;fbd3 6ad;fbd4 6ad;fbd5 6ad;fbd6 6ad;fbd7 6c7;fbd8 6c7;fbd9 6c6;fbda 6c6;fbdb 6c8;
   fbdc 6c8;fbdd 6c7 674;fbde 6cb;fbdf 6cb;fbe0 6c5;fbe1 6c5;fbe2 6c9;fbe3 6c9;fbe4 6d0;
   fbe5 6d0;fbe6 6d0;fbe7 6d0;fbe8 649;fbe9 649;fbea 64a 627;fbeb 64a 627;fbec 64a 6d5;
   fbed 64a 6d5;fbee 64a 648;fbef 64a 648;fbf0 64a 6c7;fbf1 64a 6c7;fbf2 64a 6c6;fbf3 64a 6c6;
   fbf4 64a 6c8;fbf5 64a 6c8;fbf6 64a 6d0;fbf7 64a 6d0;fbf8 64a 6d0;fbf9 64a 649;fbfa 64a 649;
   fbfb 64a 649;fbfc 6cc;fbfd 6cc;fbfe 6cc;fbff 6cc"),
  (0xfc,
   "fc00 64a 62c;fc01 64a 62d;fc02 64a 645;fc03 64a 649;fc04 64a 64a;fc05 628 62c;fc06 628 62d;
   fc07 628 62e;fc08 628 645;fc09 628 649;fc0a 628 64a;fc0b 62a 62c;fc0c 62a 62d;fc0d 62a 62e;
   fc0e 62a 645;fc0f 62a 649;fc10 62a 64a;fc11 62b 62c;fc12 62b 645;fc13 62b 649;fc14 62b 64a;
   fc15 62c 62d;fc16 62c 645;fc17 62d 62c;fc18 62d 645;fc19 62e 62c;fc1a 62e 62d;fc1b 62e 645;
   fc1c 633 62c;fc1d 633 62d;fc1e 633 62e;fc1f 633 645;fc20 635 62d;fc21 635 645;fc22 636 62c;
   fc23 636 62d;fc24 636 62e;fc25 636 645;fc26 637 62d;fc27 637 645;fc28 638 645;fc29 639 62c;
   fc2a 639 645;fc2b 63a 62c;fc2c 63a 645;fc2d 641 62c;fc2e 641 62d;fc2f 641 62e;fc30 641 645;
   fc31 641 649;fc32 641 64a;fc33 642 62d;fc34 642 645;fc35 642 649;fc36 642 64a;fc37 643 627;
   fc38 643 62c;fc39 643 62d;fc3a 643 62e;fc3b 643 644;fc3c 643 645;fc3d 643 649;fc3e 643 64a;
   fc3f 644 62c;fc40 644 62d;fc41 644 62e;fc42 644 645;fc43 644 649;fc44 644 64a;fc45 645 62c;
   fc46 645 62d;fc47 645 62e;fc48 645 645;fc49 645 649;fc4a 645 64a;fc4b 646 62c;fc4c 646 62d;
   fc4d 646 62e;fc4e 646 645;fc4f 646 649;fc50 646 64a;fc51 647 62c;fc52 647 645;fc53 647 649;
   fc54 647 64a;fc55 64a 62c;fc56 64a 62d;fc57 64a 62e;fc58 64a 645;fc59 64a 649;fc5a 64a 64a;
   fc5b 630;fc5c 631;fc5d 649;fc5e 20;fc5f 20;fc60 20;fc61 20;fc62 20;fc63 20;fc64 64a 631;
   fc65 64a 632;fc66 64a 645;fc67 64a 646;fc68 64a 649;fc69 64a 64a;fc6a 628 631;fc6b 628 632;
   fc6c 628 645;fc6d 628 646;fc6e 628 649;fc6f 628 64a;fc70 62a 631;fc71 62a 632;fc72 62a 645;
   fc73 62a 646;fc74 62a 649;fc75 62a 64a;fc76 62b 631;fc77 62b 632;fc78 62b 645;fc79 62b 646;
   fc7a 62b 649;fc7b 62b 64a;fc7c 641 649;fc7d 641 64a;fc7e 642 649;fc7f 642 64a;fc80 643 627;
   fc81 643 644;fc82 643 645;fc83 643 649;fc84 643 64a;fc85 644 645;fc86 644 649;fc87 644 64a;
   fc88 645 627;fc89 645 645;fc8a 646 631;fc8b 646 632;fc8c 646 645;fc8d 646 646;fc8e 646 649;
   fc8f 646 64a;fc90 649;fc91 64a 631;fc92 64a 632;fc93 64a 645;fc94 64a 646;fc95 64a 649;
   fc96 64a 64a;fc97 64a 62c;fc98 64a 62d;fc99 64a 62e;fc9a 64a 645;fc9b 64a 647;fc9c 628 62c;
   fc9d 628 62d;fc9e 628 62e;fc9f 628 645;fca0 628 647;fca1 62a 62c;fca2 62a 62d;fca3 62a 62e;
   fca4 62a 645;fca5 62a 647;fca6 62b 645;fca7 62c 62d;fca8 62c 645;fca9 62d 62c;fcaa 62d 645;
   fcab 62e 62c;fcac 62e 645;fcad 633 62c;fcae 633 62d;fcaf 633 62e;fcb0 633 645;fcb1 635 62d;
   fcb2 635 62e;fcb3 635 645;fcb4 636 62c;fcb5 636 62d;fcb6 636 62e;fcb7 636 645;fcb8 637 62d;
   fcb9 638 645;fcba 639 62c;fcbb 639 645;fcbc 63a 62c;fcbd 63a 645;fcbe 641 62c;fcbf 641 62d;
   fcc0 641 62e;fcc1 641 645;fcc2 642 62d;fcc3 642 645;fcc4 643 62c;fcc5 643 62d;fcc6 643 62e;
   fcc7 643 644;fcc8 643 645;fcc9 644 62c;fcca 644 62d;fccb 644 62e;fccc 644 645;fccd 644 647;
   fcce 645 62c;fccf 645 62d;fcd0 645 62e;fcd1 645 645;fcd2 646 62c;fcd3 646 62d;fcd4 646 62e;
   fcd5 646 645;fcd6 646 647;fcd7 647 62c;fcd8 647 645;fcd9 647;fcda 64a 62c;fcdb 64a 62d;
   fcdc 64a 62e;fcdd 64a 645;fcde 64a 647;fcdf 64a 645;fce0 64a 647;fce1 628 645;fce2 628 647;
   fce3 62a 645;fce4 62a 647;fce5 62b 645;fce6 62b 647;fce7 633 645;fce8 633 647;fce9 634 645;
   fcea 634 647;fceb 643 644;fcec 643 645;fced 644 645;fcee 646 645;fcef 646 647;fcf0 64a 645;
   fcf1 64a 647;fcf2 640;fcf3 640;fcf4 640;fcf5 637 649;fcf6 637 64a;fcf7 639 649;fcf8 639 64a;
   fcf9 63a 649;fcfa 63a 64a;fcfb 633 649;fcfc 633 64a;fcfd 634 649;fcfe 634 64a;fcff 62d 649"),
  (0xfd,
   "fd00 62d 64a;fd01 62c 649;fd02 62c 64a;fd03 62e 649;fd04 62e 64a;fd05 635 649;fd06 635 64a;
   fd07 636 649;fd08 636 64a;fd09 634 62c;fd0a 634 62d;fd0b 634 62e;fd0c 634 645;fd0d 634 631;
   fd0e 633 631;fd0f 635 631;fd10 636 631;fd11 637 649;fd12 637 64a;fd13 639 649;fd14 639 64a;
   fd15 63a 649;fd16 63a 64a;fd17 633 649;fd18 633 64a;fd19 634 649;fd1a 634 64a;fd1b 62d 649;
   fd1c 62d 64a;fd1d 62c 649;fd1e 62c 64a;fd1f 62e 649;fd20 62e 64a;fd21 635 649;fd22 635 64a;
   fd23 636 649;fd24 636 64a;fd25 634 62c;fd26 634 62d;fd27 634 62e;fd28 634 645;fd29 634 631;
   fd2a 633 631;fd2b 635 631;fd2c 636 631;fd2d 634 62c;fd2e 634 62d;fd2f 634 62e;fd30 634 645;
   fd31 633 647;fd32 634 647;fd33 637 645;fd34 633 62c;fd35 633 62d;fd36 633 62e;fd37 634 62c;
   fd38 634 62d;fd39 634 62e;fd3a 637 645;fd3b 638 645;fd3c 627;fd3d 627;fd50 62a 62c 645;
   fd51 62a 62d 62c;fd52 62a 62d 62c;fd53 62a 62d 645;fd54 62a 62e 645;fd55 62a 645 62c;
   fd56 62a 645 62d;fd57 62a 645 62e;fd58 62c 645 62d;fd59 62c 645 62d;fd5a 62d 645 64a;
   fd5b 62d 645 649;fd5c 633 62d 62c;fd5d 633 62c 62d;fd5e 633 62c 649;fd5f 633 645 62d;
   fd60 633 645 62d;fd61 633 645 62c;fd62 633 645 645;fd63 633 645 645;fd64 635 62d 62d;
   fd65 635 62d 62d;fd66 635 645 645;fd67 634 62d 645;fd68 634 62d 645;fd69 634 62c 64a;
   fd6a 634 645 62e;fd6b 634 645 62e;fd6c 634 645 645;fd6d 634 645 645;fd6e 636 62d 649;
   fd6f 636 62e 645;fd70 636 62e 645;fd71 637 645 62d;fd72 637 645 62d;fd73 637 645 645;
   fd74 637 645 64a;fd75 639 62c 645;fd76 639 645 645;fd77 639 645 645;fd78 639 645 649;
   fd79 63a 645 645;fd7a 63a 645 64a;fd7b 63a 645 649;fd7c 641 62e 645;fd7d 641 62e 645;
   fd7e 642 645 62d;fd7f 642 645 645;fd80 644 62d 645;fd81 644 62d 64a;fd82 644 62d 649;
   fd83 644 62c 62c;fd84 644 62c 62c;fd85 644 62e 645;fd86 644 62e 645;fd87 644 645 62d;
   fd88 644 645 62d;fd89 645 62d 62c;fd8a 645 62d 645;fd8b 645 62d 64a;fd8c 645 62c 62d;
   fd8d 645 62c 645;fd8e 645 62e 62c;fd8f 645 62e 645;fd92 645 62c 62e;fd93 647 645 62c;
   fd94 647 645 645;fd95 646 62d 645;fd96 646 62d 649;fd97 646 62c 645;fd98 646 62c 645;
   fd99 646 62c 649;fd9a 646 645 64a;fd9b 646 645 649;fd9c 64a 645 645;fd9d 64a 645 645;
   fd9e 628 62e 64a;fd9f 62a 62c 64a;fda0 62a 62c 649;fda1 62a 62e 64a;fda2 62a 62e 649;
   fda3 62a 645 64a;fda4 62a 645 649;fda5 62c 645 64a;fda6 62c 62d 649;fda7 62c 645 649;
   fda8 633 62e 649;fda9 635 62d 64a;fdaa 634 62d 64a;fdab 636 62d 64a;fdac 644 62c 64a;
   fdad 644 645 64a;fdae 64a 62d 64a;fdaf 64a 62c 64a;fdb0 64a 645 64a;fdb1 645 645 64a;
   fdb2 642 645 64a;fdb3 646 62d 64a;fdb4 642 645 62d;fdb5 644 62d 645;fdb6 639 645 64a;
   fdb7 643 645 64a;fdb8 646 62c 62d;fdb9 645 62e 64a;fdba 644 62c 645;fdbb 643 645 645;
   fdbc 644 62c 645;fdbd 646 62c 62d;fdbe 62c 62d 64a;fdbf 62d 62c 64a;fdc0 645 62c 64a;
   fdc1 641 645 64a;fdc2 628 62d 64a;fdc3 643 645 645;fdc4 639 62c 645;fdc5 635 645 645;
   fdc6 633 62e 64a;fdc7 646 62c 64a;fdf0 635 644 6d2;fdf1 642 644 6d2;fdf2 627 644 644 647;
   fdf3 627 643 628 631;fdf4 645 62d 645 62f;fdf5 635 644 639 645;fdf6 631 633 648 644;
   fdf7 639 644 64a 647;fdf8 648 633 644 645;fdf9 635 644 649;
   fdfa 635 644 649 20 627 644 644 647 20 639 644 64a 647 20 648 633 644 645;
   fdfb 62c 644 20 62c 644 627 644 647;fdfc 631 6cc 627 644"),
  (0xfe,
   "fe10 2c;fe11 3001;fe12 3002;fe13 3a;fe14 3b;fe15 21;fe16 3f;fe17 3016;fe18 3017;
   fe19 2e 2e 2e;fe30 2e 2e;fe31 2014;fe32 2013;fe33 5f;fe34 5f;fe35 28;fe36 29;fe37 7b;
   fe38 7d;fe39 3014;fe3a 3015;fe3b 3010;fe3c 3011;fe3d 300a;fe3e 300b;fe3f 3008;fe40 3009;
   fe41 300c;fe42 300d;fe43 300e;fe44 300f;fe47 5b;fe48 5d;fe49 20;fe4a 20;fe4b 20;fe4c 20;
   fe4d 5f;fe4e 5f;fe4f 5f;fe50 2c;fe51 3001;fe52 2e;fe54 3b;fe55 3a;fe56 3f;fe57 21;fe58 2014;
   fe59 28;fe5a 29;fe5b 7b;fe5c 7d;fe5d 3014;fe5e 3015;fe5f 23;fe60 26;fe61 2a;fe62 2b;fe63 2d;
   fe64 3c;fe65 3e;fe66 3d;fe68 5c;fe69 24;fe6a 25;fe6b 40;fe70 20;fe71 640;fe72 20;fe74 20;
   fe76 20;fe77 640;fe78 20;fe79 640;fe7a 20;fe7b 640;fe7c 20;fe7d 640;fe7e 20;fe7f 640;
   fe80 621;fe81 627;fe82 627;fe83 627;fe84 627;fe85 648;fe86 648;fe87 627;fe88 627;fe89 64a;
   fe8a 64a;fe8b 64a;fe8c 64a;fe8d 627;fe8e 627;fe8f 628;fe90 628;fe91 628;fe92 628;fe93 629;
   fe94 629;fe95 62a;fe96 62a;fe97 62a;fe98 62a;fe99 62b;fe9a 62b;fe9b 62b;fe9c 62b;fe9d 62c;
   fe9e 62c;fe9f 62c;fea0 62c;fea1 62d;fea2 62d;fea3 62d;fea4 62d;fea5 62e;fea6 62e;fea7 62e;
   fea8 62e;fea9 62f;feaa 62f;feab 630;feac 630;fead 631;feae 631;feaf 632;feb0 632;feb1 633;
   feb2 633;feb3 633;feb4 633;feb5 634;feb6 634;feb7 634;feb8 634;feb9 635;feba 635;febb 635;
   febc 635;febd 636;febe 636;febf 636;fec0 636;fec1 637;fec2 637;fec3 637;fec4 637;fec5 638;
   fec6 638;fec7 638;fec8 638;fec9 639;feca 639;fecb 639;fecc 639;fecd 63a;fece 63a;fecf 63a;
   fed0 63a;fed1 641;fed2 641;fed3 641;fed4 641;fed5 642;fed6 642;fed7 642;fed8 642;fed9 643;
   feda 643;fedb 643;fedc 643;fedd 644;fede 644;fedf 644;fee0 644;fee1 645;fee2 645;fee3 645;
   fee4 645;fee5 646;fee6 646;fee7 646;fee8 646;fee9 647;feea 647;feeb 647;feec 647;feed 648;
   feee 648;feef 649;fef0 649;fef1 64a;fef2 64a;fef3 64a;fef4 64a;fef5 644 627;fef6 644 627;
   fef7 644 627;fef8 644 627;fef9 644 627;fefa 644 627;fefb 644 627;fefc 644 627"),
  (0xff,
   "ff01 21;ff02 22;ff03 23;ff04 24;ff05 25;ff06 26;ff07 27;ff08 28;ff09 29;ff0a 2a;ff0b 2b;
   ff0c 2c;ff0d 2d;ff0e 2e;ff0f 2f;ff10 30;ff11 31;ff12 32;ff13 33;ff14 34;ff15 35;ff16 36;
   ff17 37;ff18 38;ff19 39;ff1a 3a;ff1b 3b;ff1c 3c;ff1d 3d;ff1e 3e;ff1f 3f;ff20 40;ff21 41;
   ff22 42;ff23 43;ff24 44;ff25 45;ff26 46;ff27 47;ff28 48;ff29 49;ff2a 4a;ff2b 4b;ff2c 4c;
   ff2d 4d;ff2e 4e;ff2f 4f;ff30 50;ff31 51;ff32 52;ff33 53;ff34 54;ff35 55;ff36 56;ff37 57;
   ff38 58;ff39 59;ff3a 5a;ff3b 5b;ff3c 5c;ff3d 5d;ff3e 5e;ff3f 5f;ff40 60;ff41 61;ff42 62;
   ff43 63;ff44 64;ff45 65;ff46 66;ff47 67;ff48 68;ff49 69;ff4a 6a;ff4b 6b;ff4c 6c;ff4d 6d;
   ff4e 6e;ff4f 6f;ff50 70;ff51 71;ff52 72;ff53 73;ff54 74;ff55 75;ff56 76;ff57 77;ff58 78;
   ff59 79;ff5a 7a;ff5b 7b;ff5c 7c;ff5d 7d;ff5e 7e;ff5f 2985;ff60 2986;ff61 3002;ff62 300c;
   ff63 300d;ff64 3001;ff65 30fb;ff66 30f2;ff67 30a1;ff68 30a3;ff69 30a5;ff6a 30a7;ff6b 30a9;
   ff6c 30e3;ff6d 30e5;ff6e 30e7;ff6f 30c3;ff70 30fc;ff71 30a2;ff72 30a4;ff73 30a6;ff74 30a8;
   ff75 30aa;ff76 30ab;ff77 30ad;ff78 30af;ff79 30b1;ff7a 30b3;ff7b 30b5;ff7c 30b7;ff7d 30b9;
   ff7e 30bb;ff7f 30bd;ff80 30bf;ff81 30c1;ff82 30c4;ff83 30c6;ff84 30c8;ff85 30ca;ff86 30cb;
   ff87 30cc;ff88 30cd;ff89 30ce;ff8a 30cf;ff8b 30d2;ff8c 30d5;ff8d 30d8;ff8e 30db;ff8f 30de;
   ff90 30df;ff91 30e0;ff92 30e1;ff93 30e2;ff94 30e4;ff95 30e6;ff96 30e8;ff97 30e9;ff98 30ea;
   ff99 30eb;ff9a 30ec;ff9b 30ed;ff9c 30ef;ff9d 30f3;ff9e ;ff9f ;ffa0 1160;ffa1 1100;ffa2 1101;
   ffa3 11aa;ffa4 1102;ffa5 11ac;ffa6 11ad;ffa7 1103;ffa8 1104;ffa9 1105;ffaa 11b0;ffab 11b1;
   ffac 11b2;ffad 11b3;ffae 11b4;ffaf 11b5;ffb0 111a;ffb1 1106;ffb2 1107;ffb3 1108;ffb4 1121;
   ffb5 1109;ffb6 110a;ffb7 110b;ffb8 110c;ffb9 110d;ffba 110e;ffbb 110f;ffbc 1110;ffbd 1111;
   ffbe 1112;ffc2 1161;ffc3 1162;ffc4 1163;ffc5 1164;ffc6 1165;ffc7 1166;ffca 1167;ffcb 1168;
   ffcc 1169;ffcd 116a;ffce 116b;ffcf 116c;ffd2 116d;ffd3 116e;ffd4 116f;ffd5 1170;ffd6 1171;
   ffd7 1172;ffda 1173;ffdb 1174;ffdc 1175;ffe0 a2;ffe1 a3;ffe2 ac;ffe3 20;ffe4 a6;ffe5 a5;
   ffe6 20a9;ffe8 2502;ffe9 2190;ffea 2191;ffeb 2192;ffec 2193;ffed 25a0;ffee 25cb"),
  (0x107,
   "10781 2d0;10782 2d1;10783 e6;10784 299;10785 253;10787 2a3;10788 ab66;10789 2a5;1078a 2a4;
   1078b 256;1078c 257;1078d 1d91;1078e 258;1078f 25e;10790 2a9;10791 264;10792 262;10793 260;
   10794 29b;10795 127;10796 29c;10797 267;10798 284;10799 2aa;1079a 2ab;1079b 26c;1079c 1df04;
   1079d a78e;1079e 26e;1079f 1df05;107a0 28e;107a1 1df06;107a2 f8;107a3 276;107a4 277;
   107a5 71;107a6 27a;107a7 1df08;107a8 27d;107a9 27e;107aa 280;107ab 2a8;107ac 2a6;107ad ab67;
   107ae 2a7;107af 288;107b0 2c71;107b2 28f;107b3 2a1;107b4 2a2;107b5 298;107b6 1c0;107b7 1c1;
   107b8 1c2;107b9 1df0a;107ba 1df1e"),
  (0x110,
   "1109a 11099;1109c 1109b;110ab 110a5"),
  (0x111,
   "1112e 11131 11127;1112f 11132 11127"),
  (0x113,
   "1134b 11347 1133e;1134c 11347 11357"),
  (0x114,
   "114bb 114b9 114ba;114bc 114b9 114b0;114be 114b9 114bd"),
  (0x115,
   "115ba 115b8 115af;115bb 115b9 115af"),
  (0x119,
   "11938 11935 11930"),
  (0x1d1,
   "1d15e 1d157;1d15f 1d158;1d160 1d158;1d161 1d158;1d162 1d158;1d163 1d158;1d164 1d158;
   1d1bb 1d1b9;1d1bc 1d1ba;1d1bd 1d1b9;1d1be 1d1ba;1d1bf 1d1b9;1d1c0 1d1ba"),
  (0x1d4,
   "1d400 41;1d401 42;1d402 43;1d403 44;1d404 45;1d405 46;1d406 47;1d407 48;1d408 49;1d409 4a;
   1d40a 4b;1d40b 4c;1d40c 4d;1d40d 4e;1d40e 4f;1d40f 50;1d410 51;1d411 52;1d412 53;1d413 54;
   1d414 55;1d415 56;1d416 57;1d417 58;1d418 59;1d419 5a;1d41a 61;1d41b 62;1d41c 63;1d41d 64;
   1d41e 65;1d41f 66;1d420 67;1d421 68;1d422 69;1d423 6a;1d424 6b;1d425 6c;1d426 6d;1d427 6e;
   1d428 6f;1d429 70;1d42a 71;1d42b 72;1d42c 73;1d42d 74;1d42e 75;1d42f 76;1d430 77;1d431 78;
   1d432 79;1d433 7a;1d434 41;1d435 42;1d436 43;1d437 44;1d438 45;1d439 46;1d43a 47;1d43b 48;
   1d43c 49;1d43d 4a;1d43e 4b;1d43f 4c;1d440 4d;1d441 4e;1d442 4f;1d443 50;1d444 51;1d445 52;
   1d446 53;1d447 54;1d448 55;1d449 56;1d44a 57;1d44b 58;1d44c 59;1d44d 5a;1d44e 61;1d44f 62;
   1d450 63;1d451 64;1d452 65;1d453 66;1d454 67;1d456 69;1d457 6a;1d458 6b;1d459 6c;1d45a 6d;
   1d45b 6e;1d45c 6f;1d45d 70;1d45e 71;1d45f 72;1d460 73;1d461 74;1d462 75;1d463 76;1d464 77;
   1d465 78;1d466 79;1d467 7a;1d468 41;1d469 42;1d46a 43;1d46b 44;1d46c 45;1d46d 46;1d46e 47;
   1d46f 48;1d470 49;1d471 4a;1d472 4b;1d473 4c;1d474 4d;1d475 4e;1d476 4f;1d477 50;1d478 51;
   1d479 52;1d47a 53;1d47b 54;1d47c 55;1d47d 56;1d47e 57;1d47f 58;1d480 59;1d481 5a;1d482 61;
   1d483 62;1d484 63;1d485 64;1d486 65;1d487 66;1d488 67;1d489 68;1d48a 69;1d48b 6a;1d48c 6b;
   1d48d 6c;1d48e 6d;1d48f 6e;1d490 6f;1d491 70;1d492 71;1d493 72;1d494 73;1d495 74;1d496 75;
   1d497 76;1d498 77;1d499 78;1d49a 79;1d49b 7a;1d49c 41;1d49e 43;1d49f 44;1d4a2 47;1d4a5 4a;
   1d4a6 4b;1d4a9 4e;1d4aa 4f;1d4ab 50;1d4ac 51;1d4ae 53;1d4af 54;1d4b0 55;1d4b1 56;1d4b2 57;
   1d4b3 58;1d4b4 59;1d4b5 5a;1d4b6 61;1d4b7 62;1d4b8 63;1d4b9 64;1d4bb 66;1d4bd 68;1d4be 69;
   1d4bf 6a;1d4c0 6b;1d4c1 6c;1d4c2 6d;1d4c3 6e;1d4c5 70;1d4c6 71;1d4c7 72;1d4c8 73;1d4c9 74;
   1d4ca 75;1d4cb 76;1d4cc 77;1d4cd 78;1d4ce 79;1d4cf 7a;1d4d0 41;1d4d1 42;1d4d2 43;1d4d3 44;
   1d4d4 45;1d4d5 46;1d4d6 47;1d4d7 48;1d4d8 49;1d4d9 4a;1d4da 4b;1d4db 4c;1d4dc 4d;1d4dd 4e;
   1d4de 4f;1d4df 50;1d4e0 51;1d4e1 52;1d4e2 53;1d4e3 54;1d4e4 55;1d4e5 56;1d4e6 57;1d4e7 58;
   1d4e8 59;1d4e9 5a;1d4ea 61;1d4eb 62;1d4ec 63;1d4ed 64;1d4ee 65;1d4ef 66;1d4f0 67;1d4f1 68;
   1d4f2 69;1d4f3 6a;1d4f4 6b;1d4f5 6c;1d4f6 6d;1d4f7 6e;1d4f8 6f;1d4f9 70;1d4fa 71;1d4fb 72;
   1d4fc 73;1d4fd 74;1d4fe 75;1d4ff 76"),
  (0x1d5,
   "1d500 77;1d501 78;1d502 79;1d503 7a;1d504 41;1d505 42;1d507 44;1d508 45;1d509 46;1d50a 47;
   1d50d 4a;1d50e 4b;1d50f 4c;1d510 4d;1d511 4e;1d512 4f;1d513 50;1d514 51;1d516 53;1d517 54;
   1d518 55;1d519 56;1d51a 57;1d51b 58;1d51c 59;1d51e 61;1d51f 62;1d520 63;1d521 64;1d522 65;
   1d523 66;1d524 67;1d525 68;1d526 69;1d527 6a;1d528 6b;1d529 6c;1d52a 6d;1d52b 6e;1d52c 6f;
   1d52d 70;1d52e 71;1d52f 72;1d530 73;1d531 74;1d532 75;1d533 76;1d534 77;1d535 78;1d536 79;
   1d537 7a;1d538 41;1d539 42;1d53b 44;1d53c 45;1d53d 46;1d53e 47;1d540 49;1d541 4a;1d542 4b;
   1d543 4c;1d544 4d;1d546 4f;1d54a 53;1d54b 54;1d54c 55;1d54d 56;1d54e 57;1d54f 58;1d550 59;
   1d552 61;1d553 62;1d554 63;1d555 64;1d556 65;1d557 66;1d558 67;1d559 68;1d55a 69;1d55b 6a;
   1d55c 6b;1d55d 6c;1d55e 6d;1d55f 6e;1d560 6f;1d561 70;1d562 71;1d563 72;1d564 73;1d565 74;
   1d566 75;1d567 76;1d568 77;1d569 78;1d56a 79;1d56b 7a;1d56c 41;1d56d 42;1d56e 43;1d56f 44;
   1d570 45;1d571 46;1d572 47;1d573 48;1d574 49;1d575 4a;1d576 4b;1d577 4c;1d578 4d;1d579 4e;
   1d57a 4f;1d57b 50;1d57c 51;1d57d 52;1d57e 53;1d57f 54;1d580 55;1d581 56;1d582 57;1d583 58;
   1d584 59;1d585 5a;1d586 61;1d587 62;1d588 63;1d589 64;1d58a 65;1d58b 66;1d58c 67;1d58d 68;
   1d58e 69;1d58f 6a;1d590 6b;1d591 6c;1d592 6d;1d593 6e;1d594 6f;1d595 70;1d596 71;1d597 72;
   1d598 73;1d599 74;1d59a 75;1d59b 76;1d59c 77;1d59d 78;1d59e 79;1d59f 7a;1d5a0 41;1d5a1 42;
   1d5a2 43;1d5a3 44;1d5a4 45;1d5a5 46;1d5a6 47;1d5a7 48;1d5a8 49;1d5a9 4a;1d5aa 4b;1d5ab 4c;
   1d5ac 4d;1d5ad 4e;1d5ae 4f;1d5af 50;1d5b0 51;1d5b1 52;1d5b2 53;1d5b3 54;1d5b4 55;1d5b5 56;
   1d5b6 57;1d5b7 58;1d5b8 59;1d5b9 5a;1d5ba 61;1d5bb 62;1d5bc 63;1d5bd 64;1d5be 65;1d5bf 66;
   1d5c0 67;1d5c1 68;1d5c2 69;1d5c3 6a;1d5c4 6b;1d5c5 6c;1d5c6 6d;1d5c7 6e;1d5c8 6f;1d5c9 70;
   1d5ca 71;1d5cb 72;1d5cc 73;1d5cd 74;1d5ce 75;1d5cf 76;1d5d0 77;1d5d1 78;1d5d2 79;1d5d3 7a;
   1d5d4 41;1d5d5 42;1d5d6 43;1d5d7 44;1d5d8 45;1d5d9 46;1d5da 47;1d5db 48;1d5dc 49;1d5dd 4a;
   1d5de 4b;1d5df 4c;1d5e0 4d;1d5e1 4e;1d5e2 4f;1d5e3 50;1d5e4 51;1d5e5 52;1d5e6 53;1d5e7 54;
   1d5e8 55;1d5e9 56;1d5ea 57;1d5eb 58;1d5ec 59;1d5ed 5a;1d5ee 61;1d5ef 62;1d5f0 63;1d5f1 64;
   1d5f2 65;1d5f3 66;1d5f4 67;1d5f5 68;1d5f6 69;1d5f7 6a;1d5f8 6b;1d5f9 6c;1d5fa 6d;1d5fb 6e;
   1d5fc 6f;1d5fd 70;1d5fe 71;1d5ff 72"),
  (0x1d6,
   "1d600 73;1d601 74;1d602 75;1d603 76;1d604 77;1d605 78;1d606 79;1d607 7a;1d608 41;1d609 42;
   1d60a 43;1d60b 44;1d60c 45;1d60d 46;1d60e 47;1d60f 48;1d610 49;1d611 4a;1d612 4b;1d613 4c;
   1d614 4d;1d615 4e;1d616 4f;1d617 50;1d618 51;1d619 52;1d61a 53;1d61b 54;1d61c 55;1d61d 56;
   1d61e 57;1d61f 58;1d620 59;1d621 5a;1d622 61;1d623 62;1d624 63;1d625 64;1d626 65;1d627 66;
   1d628 67;1d629 68;1d62a 69;1d62b 6a;1d62c 6b;1d62d 6c;1d62e 6d;1d62f 6e;1d630 6f;1d631 70;
   1d632 71;1d633 72;1d634 73;1d635 74;1d636 75;1d637 76;1d638 77;1d639 78;1d63a 79;1d63b 7a;
   1d63c 41;1d63d 42;1d63e 43;1d63f 44;1d640 45;1d641 46;1d642 47;1d643 48;1d644 49;1d645 4a;
   1d646 4b;1d647 4c;1d648 4d;1d649 4e;1d64a 4f;1d64b 50;1d64c 51;1d64d 52;1d64e 53;1d64f 54;
   1d650 55;1d651 56;1d652 57;1d653 58;1d654 59;1d655 5a;1d656 61;1d657 62;1d658 63;1d659 64;
   1d65a 65;1d65b 66;1d65c 67;1d65d 68;1d65e 69;1d65f 6a;1d660 6b;1d661 6c;1d662 6d;1d663 6e;
   1d664 6f;1d665 70;1d666 71;1d667 72;1d668 73;1d669 74;1d66a 75;1d66b 76;1d66c 77;1d66d 78;
   1d66e 79;1d66f 7a;1d670 41;1d671 42;1d672 43;1d673 44;1d674 45;1d675 46;1d676 47;1d677 48;
   1d678 49;1d679 4a;1d67a 4b;1d67b 4c;1d67c 4d;1d67d 4e;1d67e 4f;1d67f 50;1d680 51;1d681 52;
   1d682 53;1d683 54;1d684 55;1d685 56;1d686 57;1d687 58;1d688 59;1d689 5a;1d68a 61;1d68b 62;
   1d68c 63;1d68d 64;1d68e 65;1d68f 66;1d690 67;1d691 68;1d692 69;1d693 6a;1d694 6b;1d695 6c;
   1d696 6d;1d697 6e;1d698 6f;1d699 70;1d69a 71;1d69b 72;1d69c 73;1d69d 74;1d69e 75;1d69f 76;
   1d6a0 77;1d6a1 78;1d6a2 79;1d6a3 7a;1d6a4 131;1d6a5 237;1d6a8 391;1d6a9 392;1d6aa 393;
   1d6ab 394;1d6ac 395;1d6ad 396;1d6ae 397;1d6af 398;1d6b0 399;1d6b1 39a;1d6b2 39b;1d6b3 39c;
   1d6b4 39d;1d6b5 39e;1d6b6 39f;1d6b7 3a0;1d6b8 3a1;1d6b9 398;1d6ba 3a3;1d6bb 3a4;1d6bc 3a5;
   1d6bd 3a6;1d6be 3a7;1d6bf 3a8;1d6c0 3a9;1d6c1 2207;1d6c2 3b1;1d6c3 3b2;1d6c4 3b3;1d6c5 3b4;
   1d6c6 3b5;1d6c7 3b6;1d6c8 3b7;1d6c9 3b8;1d6ca 3b9;1d6cb 3ba;1d6cc 3bb;1d6cd 3bc;1d6ce 3bd;
   1d6cf 3be;1d6d0 3bf;1d6d1 3c0;1d6d2 3c1;1d6d3 3c2;1d6d4 3c3;1d6d5 3c4;1d6d6 3c5;1d6d7 3c6;
   1d6d8 3c7;1d6d9 3c8;1d6da 3c9;1d6db 2202;1d6dc 3b5;1d6dd 3b8;1d6de 3ba;1d6df 3c6;1d6e0 3c1;
   1d6e1 3c0;1d6e2 391;1d6e3 392;1d6e4 393;1d6e5 394;1d6e6 395;1d6e7 396;1d6e8 397;1d6e9 398;
   1d6ea 399;1d6eb 39a;1d6ec 39b;1d6ed 39c;1d6ee 39d;1d6ef 39e;1d6f0 39f;1d6f1 3a0;1d6f2 3a1;
   1d6f3 398;1d6f4 3a3;1d6f5 3a4;1d6f6 3a5;1d6f7 3a6;1d6f8 3a7;1d6f9 3a8;1d6fa 3a9;1d6fb 2207;
   1d6fc 3b1;1d6fd 3b2;1d6fe 3b3;1d6ff 3b4"),
  (0x1d7,
   "1d700 3b5;1d701 3b6;1d702 3b7;1d703 3b8;1d704 3b9;1d705 3ba;1d706 3bb;1d707 3bc;1d708 3bd;
   1d709 3be;1d70a 3bf;1d70b 3c0;1d70c 3c1;1d70d 3c2;1d70e 3c3;1d70f 3c4;1d710 3c5;1d711 3c6;
   1d712 3c7;1d713 3c8;1d714 3c9;1d715 2202;1d716 3b5;1d717 3b8;1d718 3ba;1d719 3c6;1d71a 3c1;
   1d71b 3c0;1d71c 391;1d71d 392;1d71e 393;1d71f 394;1d720 395;1d721 396;1d722 397;1d723 398;
   1d724 399;1d725 39a;1d726 39b;1d727 39c;1d728 39d;1d729 39e;1d72a 39f;1d72b 3a0;1d72c 3a1;
   1d72d 398;1d72e 3a3;1d72f 3a4;1d730 3a5;1d731 3a6;1d732 3a7;1d733 3a8;1d734 3a9;1d735 2207;
   1d736 3b1;1d737 3b2;1d738 3b3;1d739 3b4;1d73a 3b5;1d73b 3b6;1d73c 3b7;1d73d 3b8;1d73e 3b9;
   1d73f 3ba;1d740 3bb;1d741 3bc;1d742 3bd;1d743 3be;1d744 3bf;1d745 3c0;1d746 3c1;1d747 3c2;
   1d748 3c3;1d749 3c4;1d74a 3c5;1d74b 3c6;1d74c 3c7;1d74d 3c8;1d74e 3c9;1d74f 2202;1d750 3b5;
   1d751 3b8;1d752 3ba;1d753 3c6;1d754 3c1;1d755 3c0;1d756 391;1d757 392;1d758 393;1d759 394;
   1d75a 395;1d75b 396;1d75c 397;1d75d 398;1d75e 399;1d75f 39a;1d760 39b;1d761 39c;1d762 39d;
   1d763 39e;1d764 39f;1d765 3a0;1d766 3a1;1d767 398;1d768 3a3;1d769 3a4;1d76a 3a5;1d76b 3a6;
   1d76c 3a7;1d76d 3a8;1d76e 3a9;1d76f 2207;1d770 3b1;1d771 3b2;1d772 3b3;1d773 3b4;1d774 3b5;
   1d775 3b6;1d776 3b7;1d777 3b8;1d778 3b9;1d779 3ba;1d77a 3bb;1d77b 3bc;1d77c 3bd;1d77d 3be;
   1d77e 3bf;1d77f 3c0;1d780 3c1;1d781 3c2;1d782 3c3;1d783 3c4;1d784 3c5;1d785 3c6;1d786 3c7;
   1d787 3c8;1d788 3c9;1d789 2202;1d78a 3b5;1d78b 3b8;1d78c 3ba;1d78d 3c6;1d78e 3c1;1d78f 3c0;
   1d790 391;1d791 392;1d792 393;1d793 394;1d794 395;1d795 396;1d796 397;1d797 398;1d798 399;
   1d799 39a;1d79a 39b;1d79b 39c;1d79c 39d;1d79d 39e;1d79e 39f;1d79f 3a0;1d7a0 3a1;1d7a1 398;
   1d7a2 3a3;1d7a3 3a4;1d7a4 3a5;1d7a5 3a6;1d7a6 3a7;1d7a7 3a8;1d7a8 3a9;1d7a9 2207;1d7aa 3b1;
   1d7ab 3b2;1d7ac 3b3;1d7ad 3b4;1d7ae 3b5;1d7af 3b6;1d7b0 3b7;1d7b1 3b8;1d7b2 3b9;1d7b3 3ba;
   1d7b4 3bb;1d7b5 3bc;1d7b6 3bd;1d7b7 3be;1d7b8 3bf;1d7b9 3c0;1d7ba 3c1;1d7bb 3c2;1d7bc 3c3;
   1d7bd 3c4;1d7be 3c5;1d7bf 3c6;1d7c0 3c7;1d7c1 3c8;1d7c2 3c9;1d7c3 2202;1d7c4 3b5;1d7c5 3b8;
   1d7c6 3ba;1d7c7 3c6;1d7c8 3c1;1d7c9 3c0;1d7ca 3dc;1d7cb 3dd;1d7ce 30;1d7cf 31;1d7d0 32;
   1d7d1 33;1d7d2 34;1d7d3 35;1d7d4 36;1d7d5 37;1d7d6 38;1d7d7 39;1d7d8 30;1d7d9 31;1d7da 32;
   1d7db 33;1d7dc 34;1d7dd 35;1d7de 36;1d7df 37;1d7e0 38;1d7e1 39;1d7e2 30;1d7e3 31;1d7e4 32;
   1d7e5 33;1d7e6 34;1d7e7 35;1d7e8 36;1d7e9 37;1d7ea 38;1d7eb 39;1d7ec 30;1d7ed 31;1d7ee 32;
   1d7ef 33;1d7f0 34;1d7f1 35;1d7f2 36;1d7f3 37;1d7f4 38;1d7f5 39;1d7f6 30;1d7f7 31;1d7f8 32;
   1d7f9 33;1d7fa 34;1d7fb 35;1d7fc 36;1d7fd 37;1d7fe 38;1d7ff 39"),
  (0x1ee,
   "1ee00 627;1ee01 628;1ee02 62c;1ee03 62f;1ee05 648;1ee06 632;1ee07 62d;1ee08 637;1ee09 64a;
   1ee0a 643;1ee0b 644;1ee0c 645;1ee0d 646;1ee0e 633;1ee0f 639;1ee10 641;1ee11 635;1ee12 642;
   1ee13 631;1ee14 634;1ee15 62a;1ee16 62b;1ee17 62e;1ee18 630;1ee19 636;1ee1a 638;1ee1b 63a;
   1ee1c 66e;1ee1d 6ba;1ee1e 6a1;1ee1f 66f;1ee21 628;1ee22 62c;1ee24 647;1ee27 62d;1ee29 64a;
   1ee2a 643;1ee2b 644;1ee2c 645;1ee2d 646;1ee2e 633;1ee2f 639;1ee30 641;1ee31 635;1ee32 642;
   1ee34 634;1ee35 62a;1ee36 62b;1ee37 62e;1ee39 636;1ee3b 63a;1ee42 62c;1ee47 62d;1ee49 64a;
   1ee4b 644;1ee4d 646;1ee4e 633;1ee4f 639;1ee51 635;1ee52 642;1ee54 634;1ee57 62e;1ee59 636;
   1ee5b 63a;1ee5d 6ba;1ee5f 66f;1ee61 628;1ee62 62c;1ee64 647;1ee67 62d;1ee68 637;1ee69 64a;
   1ee6a 643;1ee6c 645;1ee6d 646;1ee6e 633;1ee6f 639;1ee70 641;1ee71 635;1ee72 642;1ee74 634;
   1ee75 62a;1ee76 62b;1ee77 62e;1ee79 636;1ee7a 638;1ee7b 63a;1ee7c 66e;1ee7e 6a1;1ee80 627;
   1ee81 628;1ee82 62c;1ee83 62f;1ee84 647;1ee85 648;1ee86 632;1ee87 62d;1ee88 637;1ee89 64a;
   1ee8b 644;1ee8c 645;1ee8d 646;1ee8e 633;1ee8f 639;1ee90 641;1ee91 635;1ee92 642;1ee93 631;
   1ee94 634;1ee95 62a;1ee96 62b;1ee97 62e;1ee98 630;1ee99 636;1ee9a 638;1ee9b 63a;1eea1 628;
   1eea2 62c;1eea3 62f;1eea5 648;1eea6 632;1eea7 62d;1eea8 637;1eea9 64a;1eeab 644;1eeac 645;
   1eead 646;1eeae 633;1eeaf 639;1eeb0 641;1eeb1 635;1eeb2 642;1eeb3 631;1eeb4 634;1eeb5 62a;
   1eeb6 62b;1eeb7 62e;1eeb8 630;1eeb9 636;1eeba 638;1eebb 63a"),
  (0x1f1,
   "1f100 30 2e;1f101 30 2c;1f102 31 2c;1f103 32 2c;1f104 33 2c;1f105 34 2c;1f106 35 2c;
   1f107 36 2c;1f108 37 2c;1f109 38 2c;1f10a 39 2c;1f110 28 41 29;1f111 28 42 29;
   1f112 28 43 29;1f113 28 44 29;1f114 28 45 29;1f115 28 46 29;1f116 28 47 29;1f117 28 48 29;
   1f118 28 49 29;1f119 28 4a 29;1f11a 28 4b 29;1f11b 28 4c 29;1f11c 28 4d 29;1f11d 28 4e 29;
   1f11e 28 4f 29;1f11f 28 50 29;1f120 28 51 29;1f121 28 52 29;1f122 28 53 29;1f123 28 54 29;
   1f124 28 55 29;1f125 28 56 29;1f126 28 57 29;1f127 28 58 29;1f128 28 59 29;1f129 28 5a 29;
   1f12a 3014 53 3015;1f12b 43;1f12c 52;1f12d 43 44;1f12e 57 5a;1f130 41;1f131 42;1f132 43;
   1f133 44;1f134 45;1f135 46;1f136 47;1f137 48;1f138 49;1f139 4a;1f13a 4b;1f13b 4c;1f13c 4d;
   1f13d 4e;1f13e 4f;1f13f 50;1f140 51;1f141 52;1f142 53;1f143 54;1f144 55;1f145 56;1f146 57;
   1f147 58;1f148 59;1f149 5a;1f14a 48 56;1f14b 4d 56;1f14c 53 44;1f14d 53 53;1f14e 50 50 56;
   1f14f 57 43;1f16a 4d 43;1f16b 4d 44;1f16c 4d 52;1f190 44 4a"),
  (0x1f2,
   "1f200 307b 304b;1f201 30b3 30b3;1f202 30b5;1f210 624b;1f211 5b57;1f212 53cc;1f213 30c6;
   1f214 4e8c;1f215 591a;1f216 89e3;1f217 5929;1f218 4ea4;1f219 6620;1f21a 7121;1f21b 6599;
   1f21c 524d;1f21d 5f8c;1f21e 518d;1f21f 65b0;1f220 521d;1f221 7d42;1f222 751f;1f223 8ca9;
   1f224 58f0;1f225 5439;1f226 6f14;1f227 6295;1f228 6355;1f229 4e00;1f22a 4e09;1f22b 904a;
   1f22c 5de6;1f22d 4e2d;1f22e 53f3;1f22f 6307;1f230 8d70;1f231 6253;1f232 7981;1f233 7a7a;
   1f234 5408;1f235 6e80;1f236 6709;1f237 6708;1f238 7533;1f239 5272;1f23a 55b6;1f23b 914d;
   1f240 3014 672c 3015;1f241 3014 4e09 3015;1f242 3014 4e8c 3015;1f243 3014 5b89 3015;
   1f244 3014 70b9 3015;1f245 3014 6253 3015;1f246 3014 76d7 3015;1f247 3014 52dd 3015;
   1f248 3014 6557 3015;1f250 5f97;1f251 53ef"),
  (0x1fb,
   "1fbf0 30;1fbf1 31;1fbf2 32;1fbf3 33;1fbf4 34;1fbf5 35;1fbf6 36;1fbf7 37;1fbf8 38;1fbf9 39"),
  (0x2f8,
   "2f800 4e3d;2f801 4e38;2f802 4e41;2f803 20122;2f804 4f60;2f805 4fae;2f806 4fbb;2f807 5002;
   2f808 507a;2f809 5099;2f80a 50e7;2f80b 50cf;2f80c 349e;2f80d 2063a;2f80e 514d;2f80f 5154;
   2f810 5164;2f811 5177;2f812 2051c;2f813 34b9;2f814 5167;2f815 518d;2f816 2054b;2f817 5197;
   2f818 51a4;2f819 4ecc;2f81a 51ac;2f81b 51b5;2f81c 291df;2f81d 51f5;2f81e 5203;2f81f 34df;
   2f820 523b;2f821 5246;2f822 5272;2f823 5277;2f824 3515;2f825 52c7;2f826 52c9;2f827 52e4;
   2f828 52fa;2f829 5305;2f82a 5306;2f82b 5317;2f82c 5349;2f82d 5351;2f82e 535a;2f82f 5373;
   2f830 537d;2f831 537f;2f832 537f;2f833 537f;2f834 20a2c;2f835 7070;2f836 53ca;2f837 53df;
   2f838 20b63;2f839 53eb;2f83a 53f1;2f83b 5406;2f83c 549e;2f83d 5438;2f83e 5448;2f83f 5468;
   2f840 54a2;2f841 54f6;2f842 5510;2f843 5553;2f844 5563;2f845 5584;2f846 5584;2f847 5599;
   2f848 55ab;2f849 55b3;2f84a 55c2;2f84b 5716;2f84c 5606;2f84d 5717;2f84e 5651;2f84f 5674;
   2f850 5207;2f851 58ee;2f852 57ce;2f853 57f4;2f854 580d;2f855 578b;2f856 5832;2f857 5831;
   2f858 58ac;2f859 214e4;2f85a 58f2;2f85b 58f7;2f85c 5906;2f85d 591a;2f85e 5922;2f85f 5962;
   2f860 216a8;2f861 216ea;2f862 59ec;2f863 5a1b;2f864 5a27;2f865 59d8;2f866 5a66;2f867 36ee;
   2f868 36fc;2f869 5b08;2f86a 5b3e;2f86b 5b3e;2f86c 219c8;2f86d 5bc3;2f86e 5bd8;2f86f 5be7;
   2f870 5bf3;2f871 21b18;2f872 5bff;2f873 5c06;2f874 5f53;2f875 5c22;2f876 3781;2f877 5c60;
   2f878 5c6e;2f879 5cc0;2f87a 5c8d;2f87b 21de4;2f87c 5d43;2f87d 21de6;2f87e 5d6e;2f87f 5d6b;
   2f880 5d7c;2f881 5de1;2f882 5de2;2f883 382f;2f884 5dfd;2f885 5e28;2f886 5e3d;2f887 5e69;
   2f888 3862;2f889 22183;2f88a 387c;2f88b 5eb0;2f88c 5eb3;2f88d 5eb6;2f88e 5eca;2f88f 2a392;
   2f890 5efe;2f891 22331;2f892 22331;2f893 8201;2f894 5f22;2f895 5f22;2f896 38c7;2f897 232b8;
   2f898 261da;2f899 5f62;2f89a 5f6b;2f89b 38e3;2f89c 5f9a;2f89d 5fcd;2f89e 5fd7;2f89f 5ff9;
   2f8a0 6081;2f8a1 393a;2f8a2 391c;2f8a3 6094;2f8a4 226d4;2f8a5 60c7;2f8a6 6148;2f8a7 614c;
   2f8a8 614e;2f8a9 614c;2f8aa 617a;2f8ab 618e;2f8ac 61b2;2f8ad 61a4;2f8ae 61af;2f8af 61de;
   2f8b0 61f2;2f8b1 61f6;2f8b2 6210;2f8b3 621b;2f8b4 625d;2f8b5 62b1;2f8b6 62d4;2f8b7 6350;
   2f8b8 22b0c;2f8b9 633d;2f8ba 62fc;2f8bb 6368;2f8bc 6383;2f8bd 63e4;2f8be 22bf1;2f8bf 6422;
   2f8c0 63c5;2f8c1 63a9;2f8c2 3a2e;2f8c3 6469;2f8c4 647e;2f8c5 649d;2f8c6 6477;2f8c7 3a6c;
   2f8c8 654f;2f8c9 656c;2f8ca 2300a;2f8cb 65e3;2f8cc 66f8;2f8cd 6649;2f8ce 3b19;2f8cf 6691;
   2f8d0 3b08;2f8d1 3ae4;2f8d2 5192;2f8d3 5195;2f8d4 6700;2f8d5 669c;2f8d6 80ad;2f8d7 43d9;
   2f8d8 6717;2f8d9 671b;2f8da 6721;2f8db 675e;2f8dc 6753;2f8dd 233c3;2f8de 3b49;2f8df 67fa;
   2f8e0 6785;2f8e1 6852;2f8e2 6885;2f8e3 2346d;2f8e4 688e;2f8e5 681f;2f8e6 6914;2f8e7 3b9d;
   2f8e8 6942;2f8e9 69a3;2f8ea 69ea;2f8eb 6aa8;2f8ec 236a3;2f8ed 6adb;2f8ee 3c18;2f8ef 6b21;
   2f8f0 238a7;2f8f1 6b54;2f8f2 3c4e;2f8f3 6b72;2f8f4 6b9f;2f8f5 6bba;2f8f6 6bbb;2f8f7 23a8d;
   2f8f8 21d0b;2f8f9 23afa;2f8fa 6c4e;2f8fb 23cbc;2f8fc 6cbf;2f8fd 6ccd;2f8fe 6c67;2f8ff 6d16"),
  (0x2f9,
   "2f900 6d3e;2f901 6d77;2f902 6d41;2f903 6d69;2f904 6d78;2f905 6d85;2f906 23d1e;2f907 6d34;
   2f908 6e2f;2f909 6e6e;2f90a 3d33;2f90b 6ecb;2f90c 6ec7;2f90d 23ed1;2f90e 6df9;2f90f 6f6e;
   2f910 23f5e;2f911 23f8e;2f912 6fc6;2f913 7039;2f914 701e;2f915 701b;2f916 3d96;2f917 704a;
   2f918 707d;2f919 7077;2f91a 70ad;2f91b 20525;2f91c 7145;2f91d 24263;2f91e 719c;2f91f 243ab;
   2f920 7228;2f921 7235;2f922 7250;2f923 24608;2f924 7280;2f925 7295;2f926 24735;2f927 24814;
   2f928 737a;2f929 738b;2f92a 3eac;2f92b 73a5;2f92c 3eb8;2f92d 3eb8;2f92e 7447;2f92f 745c;
   2f930 7471;2f931 7485;2f932 74ca;2f933 3f1b;2f934 7524;2f935 24c36;2f936 753e;2f937 24c92;
   2f938 7570;2f939 2219f;2f93a 7610;2f93b 24fa1;2f93c 24fb8;2f93d 25044;2f93e 3ffc;2f93f 4008;
   2f940 76f4;2f941 250f3;2f942 250f2;2f943 25119;2f944 25133;2f945 771e;2f946 771f;2f947 771f;
   2f948 774a;2f949 4039;2f94a 778b;2f94b 4046;2f94c 4096;2f94d 2541d;2f94e 784e;2f94f 788c;
   2f950 78cc;2f951 40e3;2f952 25626;2f953 7956;2f954 2569a;2f955 256c5;2f956 798f;2f957 79eb;
   2f958 412f;2f959 7a40;2f95a 7a4a;2f95b 7a4f;2f95c 2597c;2f95d 25aa7;2f95e 25aa7;2f95f 7aee;
   2f960 4202;2f961 25bab;2f962 7bc6;2f963 7bc9;2f964 4227;2f965 25c80;2f966 7cd2;2f967 42a0;
   2f968 7ce8;2f969 7ce3;2f96a 7d00;2f96b 25f86;2f96c 7d63;2f96d 4301;2f96e 7dc7;2f96f 7e02;
   2f970 7e45;2f971 4334;2f972 26228;2f973 26247;2f974 4359;2f975 262d9;2f976 7f7a;2f977 2633e;
   2f978 7f95;2f979 7ffa;2f97a 8005;2f97b 264da;2f97c 26523;2f97d 8060;2f97e 265a8;2f97f 8070;
   2f980 2335f;2f981 43d5;2f982 80b2;2f983 8103;2f984 440b;2f985 813e;2f986 5ab5;2f987 267a7;
   2f988 267b5;2f989 23393;2f98a 2339c;2f98b 8201;2f98c 8204;2f98d 8f9e;2f98e 446b;2f98f 8291;
   2f990 828b;2f991 829d;2f992 52b3;2f993 82b1;2f994 82b3;2f995 82bd;2f996 82e6;2f997 26b3c;
   2f998 82e5;2f999 831d;2f99a 8363;2f99b 83ad;2f99c 8323;2f99d 83bd;2f99e 83e7;2f99f 8457;
   2f9a0 8353;2f9a1 83ca;2f9a2 83cc;2f9a3 83dc;2f9a4 26c36;2f9a5 26d6b;2f9a6 26cd5;2f9a7 452b;
   2f9a8 84f1;2f9a9 84f3;2f9aa 8516;2f9ab 273ca;2f9ac 8564;2f9ad 26f2c;2f9ae 455d;2f9af 4561;
   2f9b0 26fb1;2f9b1 270d2;2f9b2 456b;2f9b3 8650;2f9b4 865c;2f9b5 8667;2f9b6 8669;2f9b7 86a9;
   2f9b8 8688;2f9b9 870e;2f9ba 86e2;2f9bb 8779;2f9bc 8728;2f9bd 876b;2f9be 8786;2f9bf 45d7;
   2f9c0 87e1;2f9c1 8801;2f9c2 45f9;2f9c3 8860;2f9c4 8863;2f9c5 27667;2f9c6 88d7;2f9c7 88de;
   2f9c8 4635;2f9c9 88fa;2f9ca 34bb;2f9cb 278ae;2f9cc 27966;2f9cd 46be;2f9ce 46c7;2f9cf 8aa0;
   2f9d0 8aed;2f9d1 8b8a;2f9d2 8c55;2f9d3 27ca8;2f9d4 8cab;2f9d5 8cc1;2f9d6 8d1b;2f9d7 8d77;
   2f9d8 27f2f;2f9d9 20804;2f9da 8dcb;2f9db 8dbc;2f9dc 8df0;2f9dd 208de;2f9de 8ed4;2f9df 8f38;
   2f9e0 285d2;2f9e1 285ed;2f9e2 9094;2f9e3 90f1;2f9e4 9111;2f9e5 2872e;2f9e6 911b;2f9e7 9238;
   2f9e8 92d7;2f9e9 92d8;2f9ea 927c;2f9eb 93f9;2f9ec 9415;2f9ed 28bfa;2f9ee 958b;2f9ef 4995;
   2f9f0 95b7;2f9f1 28d77;2f9f2 49e6;2f9f3 96c3;2f9f4 5db2;2f9f5 9723;2f9f6 29145;2f9f7 2921a;
   2f9f8 4a6e;2f9f9 4a76;2f9fa 97e0;2f9fb 2940a;2f9fc 4ab2;2f9fd 29496;2f9fe 980b;2f9ff 980b"),
  (0x2fa,
   "2fa00 9829;2fa01 295b6;2fa02 98e2;2fa03 4b33;2fa04 9929;2fa05 99a7;2fa06 99c2;2fa07 99fe;
   2fa08 4bce;2fa09 29b30;2fa0a 9b12;2fa0b 9c40;2fa0c 9cfd;2fa0d 4cce;2fa0e 4ced;2fa0f 9d67;
   2fa10 2a0ce;2fa11 4cf8;2fa12 2a105;2fa13 2a20e;2fa14 2a291;2fa15 9ebb;2fa16 4d56;2fa17 9ef9;
   2fa18 9efe;2fa19 9f05;2fa1a 9f0f;2fa1b 9f16;2fa1c 9f3b;2fa1d 2a600")]

/-- The jamo of a Hangul syllable given by its index among the syllables: a leading consonant, a
vowel and, unless the syllable is open, a trailing consonant. -/
def hangulJamo (index : Nat) : List Char :=
  let lead := Char.ofNat (0x1100 + index / 588)
  let vowel := Char.ofNat (0x1161 + index % 588 / 28)
  let trail := index % 28
  if trail = 0 then [lead, vowel] else [lead, vowel, Char.ofNat (0x11A7 + trail)]

/-- The compatibility decomposition of a character, combining marks left out. -/
def baseChars (c : Char) : List Char :=
  if isAscii c then [c]
  else if 0xAC00 ≤ c.toNat && c.toNat ≤ 0xD7A3 then hangulJamo (c.toNat - 0xAC00)
  else if isMark c then []
  else
    match decompositionPages.lookup (c.toNat / 256) with
    | some page => ((readExpansions page).lookup c.toNat).getD [c]
    | none => [c]

end RowPlan.Text
