import ScriptLib.Text.Compact

/-!
# Scripts and script extensions

The Script and Script_Extensions properties of Unicode 16.0. Scripts are numbered by
their place in `scriptNames`, which gives each script's long name first and then its
other names. The script table lists each code point where the script changes, with the
number of the new script, and the number of scripts for code points without one (the
script Unknown, which no table lists). The extension table does the same with the
numbers of `extensionSets`, each a list of scripts: the scripts that a character is used
with, which for most characters is its own script alone.
-/

namespace ScriptLib

namespace Unicode

/-- The scripts, each with its long name first. -/
def scriptNames : Array (List String) :=
  #[["Adlam", "Adlm"],
    ["Ahom"],
    ["Anatolian_Hieroglyphs", "Hluw"],
    ["Arabic", "Arab"],
    ["Armenian", "Armn"],
    ["Avestan", "Avst"],
    ["Balinese", "Bali"],
    ["Bamum", "Bamu"],
    ["Bassa_Vah", "Bass"],
    ["Batak", "Batk"],
    ["Bengali", "Beng"],
    ["Bhaiksuki", "Bhks"],
    ["Bopomofo", "Bopo"],
    ["Brahmi", "Brah"],
    ["Braille", "Brai"],
    ["Buginese", "Bugi"],
    ["Buhid", "Buhd"],
    ["Canadian_Aboriginal", "Cans"],
    ["Carian", "Cari"],
    ["Caucasian_Albanian", "Aghb"],
    ["Chakma", "Cakm"],
    ["Cham"],
    ["Cherokee", "Cher"],
    ["Chorasmian", "Chrs"],
    ["Common", "Zyyy"],
    ["Coptic", "Copt", "Qaac"],
    ["Cuneiform", "Xsux"],
    ["Cypriot", "Cprt"],
    ["Cypro_Minoan", "Cpmn"],
    ["Cyrillic", "Cyrl"],
    ["Deseret", "Dsrt"],
    ["Devanagari", "Deva"],
    ["Dives_Akuru", "Diak"],
    ["Dogra", "Dogr"],
    ["Duployan", "Dupl"],
    ["Egyptian_Hieroglyphs", "Egyp"],
    ["Elbasan", "Elba"],
    ["Elymaic", "Elym"],
    ["Ethiopic", "Ethi"],
    ["Garay", "Gara"],
    ["Georgian", "Geor"],
    ["Glagolitic", "Glag"],
    ["Gothic", "Goth"],
    ["Grantha", "Gran"],
    ["Greek", "Grek"],
    ["Gujarati", "Gujr"],
    ["Gunjala_Gondi", "Gong"],
    ["Gurmukhi", "Guru"],
    ["Gurung_Khema", "Gukh"],
    ["Han", "Hani"],
    ["Hangul", "Hang"],
    ["Hanifi_Rohingya", "Rohg"],
    ["Hanunoo", "Hano"],
    ["Hatran", "Hatr"],
    ["Hebrew", "Hebr"],
    ["Hiragana", "Hira"],
    ["Imperial_Aramaic", "Armi"],
    ["Inherited", "Zinh", "Qaai"],
    ["Inscriptional_Pahlavi", "Phli"],
    ["Inscriptional_Parthian", "Prti"],
    ["Javanese", "Java"],
    ["Kaithi", "Kthi"],
    ["Kannada", "Knda"],
    ["Katakana", "Kana"],
    ["Kawi"],
    ["Kayah_Li", "Kali"],
    ["Kharoshthi", "Khar"],
    ["Khitan_Small_Script", "Kits"],
    ["Khmer", "Khmr"],
    ["Khojki", "Khoj"],
    ["Khudawadi", "Sind"],
    ["Kirat_Rai", "Krai"],
    ["Lao", "Laoo"],
    ["Latin", "Latn"],
    ["Lepcha", "Lepc"],
    ["Limbu", "Limb"],
    ["Linear_A", "Lina"],
    ["Linear_B", "Linb"],
    ["Lisu"],
    ["Lycian", "Lyci"],
    ["Lydian", "Lydi"],
    ["Mahajani", "Mahj"],
    ["Makasar", "Maka"],
    ["Malayalam", "Mlym"],
    ["Mandaic", "Mand"],
    ["Manichaean", "Mani"],
    ["Marchen", "Marc"],
    ["Masaram_Gondi", "Gonm"],
    ["Medefaidrin", "Medf"],
    ["Meetei_Mayek", "Mtei"],
    ["Mende_Kikakui", "Mend"],
    ["Meroitic_Cursive", "Merc"],
    ["Meroitic_Hieroglyphs", "Mero"],
    ["Miao", "Plrd"],
    ["Modi"],
    ["Mongolian", "Mong"],
    ["Mro", "Mroo"],
    ["Multani", "Mult"],
    ["Myanmar", "Mymr"],
    ["Nabataean", "Nbat"],
    ["Nag_Mundari", "Nagm"],
    ["Nandinagari", "Nand"],
    ["New_Tai_Lue", "Talu"],
    ["Newa"],
    ["Nko", "Nkoo"],
    ["Nushu", "Nshu"],
    ["Nyiakeng_Puachue_Hmong", "Hmnp"],
    ["Ogham", "Ogam"],
    ["Ol_Chiki", "Olck"],
    ["Ol_Onal", "Onao"],
    ["Old_Hungarian", "Hung"],
    ["Old_Italic", "Ital"],
    ["Old_North_Arabian", "Narb"],
    ["Old_Permic", "Perm"],
    ["Old_Persian", "Xpeo"],
    ["Old_Sogdian", "Sogo"],
    ["Old_South_Arabian", "Sarb"],
    ["Old_Turkic", "Orkh"],
    ["Old_Uyghur", "Ougr"],
    ["Oriya", "Orya"],
    ["Osage", "Osge"],
    ["Osmanya", "Osma"],
    ["Pahawh_Hmong", "Hmng"],
    ["Palmyrene", "Palm"],
    ["Pau_Cin_Hau", "Pauc"],
    ["Phags_Pa", "Phag"],
    ["Phoenician", "Phnx"],
    ["Psalter_Pahlavi", "Phlp"],
    ["Rejang", "Rjng"],
    ["Runic", "Runr"],
    ["Samaritan", "Samr"],
    ["Saurashtra", "Saur"],
    ["Sharada", "Shrd"],
    ["Shavian", "Shaw"],
    ["Siddham", "Sidd"],
    ["SignWriting", "Sgnw"],
    ["Sinhala", "Sinh"],
    ["Sogdian", "Sogd"],
    ["Sora_Sompeng", "Sora"],
    ["Soyombo", "Soyo"],
    ["Sundanese", "Sund"],
    ["Sunuwar", "Sunu"],
    ["Syloti_Nagri", "Sylo"],
    ["Syriac", "Syrc"],
    ["Tagalog", "Tglg"],
    ["Tagbanwa", "Tagb"],
    ["Tai_Le", "Tale"],
    ["Tai_Tham", "Lana"],
    ["Tai_Viet", "Tavt"],
    ["Takri", "Takr"],
    ["Tamil", "Taml"],
    ["Tangsa", "Tnsa"],
    ["Tangut", "Tang"],
    ["Telugu", "Telu"],
    ["Thaana", "Thaa"],
    ["Thai"],
    ["Tibetan", "Tibt"],
    ["Tifinagh", "Tfng"],
    ["Tirhuta", "Tirh"],
    ["Todhri", "Todr"],
    ["Toto"],
    ["Tulu_Tigalari", "Tutg"],
    ["Ugaritic", "Ugar"],
    ["Vai", "Vaii"],
    ["Vithkuqi", "Vith"],
    ["Wancho", "Wcho"],
    ["Warang_Citi", "Wara"],
    ["Yezidi", "Yezi"],
    ["Yi", "Yiii"],
    ["Zanabazar_Square", "Zanb"]]

/-- Script runs; the numbers are positions in `scriptNames`. -/
def scriptText : String :=
  "0:24,41:73,5b:24,61:73,7b:24,aa:73,ab:24,ba:73,bb:24,c0:73,d7:24,d8:73,f7:24,f8:73,2b9:24,2e0:73,2e5:24,2ea:12,2ec:24,300:57,370:44,374:24,375:44,378:170,37a:44,37e:24,37f:44,380:170,384:44,385:24,386:44,387:24,388:44,38b:170,38c:44,38d:170,38e:44,3a2:170,3a3:44,3e2:25,3f0:44,400:29,485:57,487:29,530:170,531:4,557:170,559:4,58b:170,58d:4,590:170,591:54,5c8:170,5d0:54,5eb:170,5ef:54,5f5:170,600:3,605:24,606:3,60c:24,60d:3,61b:24,61c:3,61f:24,620:3,640:24,641:3,64b:57,656:3,670:57,671:3,6dd:24,6de:3,700:143,70e:170,70f:143,74b:170,74d:143,750:3,780:154,7b2:170,7c0:104,7fb:170,7fd:104,800:130,82e:170,830:130,83f:170,840:84,85c:170,85e:84,85f:170,860:143,86b:170,870:3,88f:170,890:3,892:170,897:3,8e2:24,8e3:3,900:31,951:57,955:31,964:24,966:31,980:10,984:170,985:10,98d:170,98f:10,991:170,993:10,9a9:170,9aa:10,9b1:170,9b2:10,9b3:170,9b6:10,9ba:170,9bc:10,9c5:170,9c7:10,9c9:170,9cb:10,9cf:170,9d7:10,9d8:170,9dc:10,9de:170,9df:10,9e4:170,9e6:10,9ff:170,a01:47,a04:170,a05:47,a0b:170,a0f:47,a11:170,a13:47,a29:170,a2a:47,a31:170,a32:47,a34:170,a35:47,a37:170,a38:47,a3a:170,a3c:47,a3d:170,a3e:47,a43:170,a47:47,a49:170,a4b:47,a4e:170,a51:47,a52:170,a59:47,a5d:170,a5e:47,a5f:170,a66:47,a77:170,a81:45,a84:170,a85:45,a8e:170,a8f:45,a92:170,a93:45,aa9:170,aaa:45,ab1:170,ab2:45,ab4:170,ab5:45,aba:170,abc:45,ac6:170,ac7:45,aca:170,acb:45,ace:170,ad0:45,ad1:170,ae0:45,ae4:170,ae6:45,af2:170,af9:45,b00:170,b01:119,b04:170,b05:119,b0d:170,b0f:119,b11:170,b13:119,b29:170,b2a:119,b31:170,b32:119,b34:170,b35:119,b3a:170,b3c:119,b45:170,b47:119,b49:170,b4b:119,b4e:170,b55:119,b58:170,b5c:119,b5e:170,b5f:119,b64:170,b66:119,b78:170,b82:150,b84:170,b85:150,b8b:170,b8e:150,b91:170,b92:150,b96:170,b99:150,b9b:170,b9c:150,b9d:170,b9e:150,ba0:170,ba3:150,ba5:170,ba8:150,bab:170,bae:150,bba:170,bbe:150,bc3:170,bc6:150,bc9:170,bca:150,bce:170,bd0:150,bd1:170,bd7:150,bd8:170,be6:150,bfb:170,c00:153,c0d:170,c0e:153,c11:170,c12:153,c29:170,c2a:153,c3a:170,c3c:153,c45:170,c46:153,c49:170,c4a:153,c4e:170" ++
  ",c55:153,c57:170,c58:153,c5b:170,c5d:153,c5e:170,c60:153,c64:170,c66:153,c70:170,c77:153,c80:62,c8d:170,c8e:62,c91:170,c92:62,ca9:170,caa:62,cb4:170,cb5:62,cba:170,cbc:62,cc5:170,cc6:62,cc9:170,cca:62,cce:170,cd5:62,cd7:170,cdd:62,cdf:170,ce0:62,ce4:170,ce6:62,cf0:170,cf1:62,cf4:170,d00:83,d0d:170,d0e:83,d11:170,d12:83,d45:170,d46:83,d49:170,d4a:83,d50:170,d54:83,d64:170,d66:83,d80:170,d81:136,d84:170,d85:136,d97:170,d9a:136,db2:170,db3:136,dbc:170,dbd:136,dbe:170,dc0:136,dc7:170,dca:136,dcb:170,dcf:136,dd5:170,dd6:136,dd7:170,dd8:136,de0:170,de6:136,df0:170,df2:136,df5:170,e01:155,e3b:170,e3f:24,e40:155,e5c:170,e81:72,e83:170,e84:72,e85:170,e86:72,e8b:170,e8c:72,ea4:170,ea5:72,ea6:170,ea7:72,ebe:170,ec0:72,ec5:170,ec6:72,ec7:170,ec8:72,ecf:170,ed0:72,eda:170,edc:72,ee0:170,f00:156,f48:170,f49:156,f6d:170,f71:156,f98:170,f99:156,fbd:170,fbe:156,fcd:170,fce:156,fd5:24,fd9:156,fdb:170,1000:98,10a0:40,10c6:170,10c7:40,10c8:170,10cd:40,10ce:170,10d0:40,10fb:24,10fc:40,1100:50,1200:38,1249:170,124a:38,124e:170,1250:38,1257:170,1258:38,1259:170,125a:38,125e:170,1260:38,1289:170,128a:38,128e:170,1290:38,12b1:170,12b2:38,12b6:170,12b8:38,12bf:170,12c0:38,12c1:170,12c2:38,12c6:170,12c8:38,12d7:170,12d8:38,1311:170,1312:38,1316:170,1318:38,135b:170,135d:38,137d:170,1380:38,139a:170,13a0:22,13f6:170,13f8:22,13fe:170,1400:17,1680:107,169d:170,16a0:129,16eb:24,16ee:129,16f9:170,1700:144,1716:170,171f:144,1720:52,1735:24,1737:170,1740:16,1754:170,1760:145,176d:170,176e:145,1771:170,1772:145,1774:170,1780:68,17de:170,17e0:68,17ea:170,17f0:68,17fa:170,1800:95,1802:24,1804:95,1805:24,1806:95,181a:170,1820:95,1879:170,1880:95,18ab:170,18b0:17,18f6:170,1900:75,191f:170,1920:75,192c:170,1930:75,193c:170,1940:75,1941:170,1944:75,1950:146,196e:170,1970:146,1975:170,1980:102,19ac:170,19b0:102,19ca:170,19d0:102,19db:170,19de:102,19e0:68,1a00:15,1a1c:170,1a1e:15,1a20:147,1a5f:170,1a60:147,1a7d:170,1a7f:147,1a8a:170,1a90:147,1a9a:170,1aa0:147,1aae:170,1ab0:57,1acf:170,1b00:6,1b4d:170,1b4e:6," ++
  "1b80:140,1bc0:9,1bf4:170,1bfc:9,1c00:74,1c38:170,1c3b:74,1c4a:170,1c4d:74,1c50:108,1c80:29,1c8b:170,1c90:40,1cbb:170,1cbd:40,1cc0:140,1cc8:170,1cd0:57,1cd3:24,1cd4:57,1ce1:24,1ce2:57,1ce9:24,1ced:57,1cee:24,1cf4:57,1cf5:24,1cf8:57,1cfa:24,1cfb:170,1d00:73,1d26:44,1d2b:29,1d2c:73,1d5d:44,1d62:73,1d66:44,1d6b:73,1d78:29,1d79:73,1dbf:44,1dc0:57,1e00:73,1f00:44,1f16:170,1f18:44,1f1e:170,1f20:44,1f46:170,1f48:44,1f4e:170,1f50:44,1f58:170,1f59:44,1f5a:170,1f5b:44,1f5c:170,1f5d:44,1f5e:170,1f5f:44,1f7e:170,1f80:44,1fb5:170,1fb6:44,1fc5:170,1fc6:44,1fd4:170,1fd6:44,1fdc:170,1fdd:44,1ff0:170,1ff2:44,1ff5:170,1ff6:44,1fff:170,2000:24,200c:57,200e:24,2065:170,2066:24,2071:73,2072:170,2074:24,207f:73,2080:24,208f:170,2090:73,209d:170,20a0:24,20c1:170,20d0:57,20f1:170,2100:24,2126:44,2127:24,212a:73,212c:24,2132:73,2133:24,214e:73,214f:24,2160:73,2189:24,218c:170,2190:24,242a:170,2440:24,244b:170,2460:24,2800:14,2900:24,2b74:170,2b76:24,2b96:170,2b97:24,2c00:41,2c60:73,2c80:25,2cf4:170,2cf9:25,2d00:40,2d26:170,2d27:40,2d28:170,2d2d:40,2d2e:170,2d30:157,2d68:170,2d6f:157,2d71:170,2d7f:157,2d80:38,2d97:170,2da0:38,2da7:170,2da8:38,2daf:170,2db0:38,2db7:170,2db8:38,2dbf:170,2dc0:38,2dc7:170,2dc8:38,2dcf:170,2dd0:38,2dd7:170,2dd8:38,2ddf:170,2de0:29,2e00:24,2e5e:170,2e80:49,2e9a:170,2e9b:49,2ef4:170,2f00:49,2fd6:170,2ff0:24,3005:49,3006:24,3007:49,3008:24,3021:49,302a:57,302e:50,3030:24,3038:49,303c:24,3040:170,3041:55,3097:170,3099:57,309b:24,309d:55,30a0:24,30a1:63,30fb:24,30fd:63,3100:170,3105:12,3130:170,3131:50,318f:170,3190:24,31a0:12,31c0:24,31e6:170,31ef:24,31f0:63,3200:50,321f:170,3220:24,3260:50,327f:24,32d0:63,32ff:24,3300:63,3358:24,3400:49,4dc0:24,4e00:49,a000:168,a48d:170,a490:168,a4c7:170,a4d0:78,a500:163,a62c:170,a640:29,a6a0:7,a6f8:170,a700:24,a722:73,a788:24,a78b:73,a7ce:170,a7d0:73,a7d2:170,a7d3:73,a7d4:170,a7d5:73,a7dd:170,a7f2:73,a800:142,a82d:170,a830:24,a83a:170,a840:125,a878:170,a880:131,a8c6:170,a8ce:131,a8da:170,a8e0:31,a900:65,a92e:24,a92f:65,a930:128,a954" ++
  ":170,a95f:128,a960:50,a97d:170,a980:60,a9ce:170,a9cf:24,a9d0:60,a9da:170,a9de:60,a9e0:98,a9ff:170,aa00:21,aa37:170,aa40:21,aa4e:170,aa50:21,aa5a:170,aa5c:21,aa60:98,aa80:148,aac3:170,aadb:148,aae0:89,aaf7:170,ab01:38,ab07:170,ab09:38,ab0f:170,ab11:38,ab17:170,ab20:38,ab27:170,ab28:38,ab2f:170,ab30:73,ab5b:24,ab5c:73,ab65:44,ab66:73,ab6a:24,ab6c:170,ab70:22,abc0:89,abee:170,abf0:89,abfa:170,ac00:50,d7a4:170,d7b0:50,d7c7:170,d7cb:50,d7fc:170,f900:49,fa6e:170,fa70:49,fada:170,fb00:73,fb07:170,fb13:4,fb18:170,fb1d:54,fb37:170,fb38:54,fb3d:170,fb3e:54,fb3f:170,fb40:54,fb42:170,fb43:54,fb45:170,fb46:54,fb50:3,fbc3:170,fbd3:3,fd3e:24,fd40:3,fd90:170,fd92:3,fdc8:170,fdcf:3,fdd0:170,fdf0:3,fe00:57,fe10:24,fe1a:170,fe20:57,fe2e:29,fe30:24,fe53:170,fe54:24,fe67:170,fe68:24,fe6c:170,fe70:3,fe75:170,fe76:3,fefd:170,feff:24,ff00:170,ff01:24,ff21:73,ff3b:24,ff41:73,ff5b:24,ff66:63,ff70:24,ff71:63,ff9e:24,ffa0:50,ffbf:170,ffc2:50,ffc8:170,ffca:50,ffd0:170,ffd2:50,ffd8:170,ffda:50,ffdd:170,ffe0:24,ffe7:170,ffe8:24,ffef:170,fff9:24,fffe:170,10000:77,1000c:170,1000d:77,10027:170,10028:77,1003b:170,1003c:77,1003e:170,1003f:77,1004e:170,10050:77,1005e:170,10080:77,100fb:170,10100:24,10103:170,10107:24,10134:170,10137:24,10140:44,1018f:170,10190:24,1019d:170,101a0:44,101a1:170,101d0:24,101fd:57,101fe:170,10280:79,1029d:170,102a0:18,102d1:170,102e0:57,102e1:24,102fc:170,10300:111,10324:170,1032d:111,10330:42,1034b:170,10350:113,1037b:170,10380:162,1039e:170,1039f:162,103a0:114,103c4:170,103c8:114,103d6:170,10400:30,10450:133,10480:121,1049e:170,104a0:121,104aa:170,104b0:120,104d4:170,104d8:120,104fc:170,10500:36,10528:170,10530:19,10564:170,1056f:19,10570:164,1057b:170,1057c:164,1058b:170,1058c:164,10593:170,10594:164,10596:170,10597:164,105a2:170,105a3:164,105b2:170,105b3:164,105ba:170,105bb:164,105bd:170,105c0:159,105f4:170,10600:76,10737:170,10740:76,10756:170,10760:76,10768:170,10780:73,10786:170,10787:73,107b1:170,107b2:73,107bb:170,10800:27,10806:170,10808:27,10809:170,1080a:27,1083" ++
  "6:170,10837:27,10839:170,1083c:27,1083d:170,1083f:27,10840:56,10856:170,10857:56,10860:123,10880:99,1089f:170,108a7:99,108b0:170,108e0:53,108f3:170,108f4:53,108f6:170,108fb:53,10900:126,1091c:170,1091f:126,10920:80,1093a:170,1093f:80,10940:170,10980:92,109a0:91,109b8:170,109bc:91,109d0:170,109d2:91,10a00:66,10a04:170,10a05:66,10a07:170,10a0c:66,10a14:170,10a15:66,10a18:170,10a19:66,10a36:170,10a38:66,10a3b:170,10a3f:66,10a49:170,10a50:66,10a59:170,10a60:116,10a80:112,10aa0:170,10ac0:85,10ae7:170,10aeb:85,10af7:170,10b00:5,10b36:170,10b39:5,10b40:59,10b56:170,10b58:59,10b60:58,10b73:170,10b78:58,10b80:127,10b92:170,10b99:127,10b9d:170,10ba9:127,10bb0:170,10c00:117,10c49:170,10c80:110,10cb3:170,10cc0:110,10cf3:170,10cfa:110,10d00:51,10d28:170,10d30:51,10d3a:170,10d40:39,10d66:170,10d69:39,10d86:170,10d8e:39,10d90:170,10e60:3,10e7f:170,10e80:167,10eaa:170,10eab:167,10eae:170,10eb0:167,10eb2:170,10ec2:3,10ec5:170,10efc:3,10f00:115,10f28:170,10f30:137,10f5a:170,10f70:118,10f8a:170,10fb0:23,10fcc:170,10fe0:37,10ff7:170,11000:13,1104e:170,11052:13,11076:170,1107f:13,11080:61,110c3:170,110cd:61,110ce:170,110d0:138,110e9:170,110f0:138,110fa:170,11100:20,11135:170,11136:20,11148:170,11150:81,11177:170,11180:132,111e0:170,111e1:136,111f5:170,11200:69,11212:170,11213:69,11242:170,11280:97,11287:170,11288:97,11289:170,1128a:97,1128e:170,1128f:97,1129e:170,1129f:97,112aa:170,112b0:70,112eb:170,112f0:70,112fa:170,11300:43,11304:170,11305:43,1130d:170,1130f:43,11311:170,11313:43,11329:170,1132a:43,11331:170,11332:43,11334:170,11335:43,1133a:170,1133b:57,1133c:43,11345:170,11347:43,11349:170,1134b:43,1134e:170,11350:43,11351:170,11357:43,11358:170,1135d:43,11364:170,11366:43,1136d:170,11370:43,11375:170,11380:161,1138a:170,1138b:161,1138c:170,1138e:161,1138f:170,11390:161,113b6:170,113b7:161,113c1:170,113c2:161,113c3:170,113c5:161,113c6:170,113c7:161,113cb:170,113cc:161,113d6:170,113d7:161,113d9:170,113e1:161,113e3:170,11400:103,1145c:170,1145d:103,11462:170,11480:158,114c8:170,114d" ++
  "0:158,114da:170,11580:134,115b6:170,115b8:134,115de:170,11600:94,11645:170,11650:94,1165a:170,11660:95,1166d:170,11680:149,116ba:170,116c0:149,116ca:170,116d0:98,116e4:170,11700:1,1171b:170,1171d:1,1172c:170,11730:1,11747:170,11800:33,1183c:170,118a0:166,118f3:170,118ff:166,11900:32,11907:170,11909:32,1190a:170,1190c:32,11914:170,11915:32,11917:170,11918:32,11936:170,11937:32,11939:170,1193b:32,11947:170,11950:32,1195a:170,119a0:101,119a8:170,119aa:101,119d8:170,119da:101,119e5:170,11a00:169,11a48:170,11a50:139,11aa3:170,11ab0:17,11ac0:124,11af9:170,11b00:31,11b0a:170,11bc0:141,11be2:170,11bf0:141,11bfa:170,11c00:11,11c09:170,11c0a:11,11c37:170,11c38:11,11c46:170,11c50:11,11c6d:170,11c70:86,11c90:170,11c92:86,11ca8:170,11ca9:86,11cb7:170,11d00:87,11d07:170,11d08:87,11d0a:170,11d0b:87,11d37:170,11d3a:87,11d3b:170,11d3c:87,11d3e:170,11d3f:87,11d48:170,11d50:87,11d5a:170,11d60:46,11d66:170,11d67:46,11d69:170,11d6a:46,11d8f:170,11d90:46,11d92:170,11d93:46,11d99:170,11da0:46,11daa:170,11ee0:82,11ef9:170,11f00:64,11f11:170,11f12:64,11f3b:170,11f3e:64,11f5b:170,11fb0:78,11fb1:170,11fc0:150,11ff2:170,11fff:150,12000:26,1239a:170,12400:26,1246f:170,12470:26,12475:170,12480:26,12544:170,12f90:28,12ff3:170,13000:35,13456:170,13460:35,143fb:170,14400:2,14647:170,16100:48,1613a:170,16800:7,16a39:170,16a40:96,16a5f:170,16a60:96,16a6a:170,16a6e:96,16a70:151,16abf:170,16ac0:151,16aca:170,16ad0:8,16aee:170,16af0:8,16af6:170,16b00:122,16b46:170,16b50:122,16b5a:170,16b5b:122,16b62:170,16b63:122,16b78:170,16b7d:122,16b90:170,16d40:71,16d7a:170,16e40:88,16e9b:170,16f00:93,16f4b:170,16f4f:93,16f88:170,16f8f:93,16fa0:170,16fe0:152,16fe1:105,16fe2:49,16fe4:67,16fe5:170,16ff0:49,16ff2:170,17000:152,187f8:170,18800:152,18b00:67,18cd6:170,18cff:67,18d00:152,18d09:170,1aff0:63,1aff4:170,1aff5:63,1affc:170,1affd:63,1afff:170,1b000:63,1b001:55,1b120:63,1b123:170,1b132:55,1b133:170,1b150:55,1b153:170,1b155:63,1b156:170,1b164:63,1b168:170,1b170:105,1b2fc:170,1bc00:34,1bc6b:170,1bc70:34,1bc7d:170,1" ++
  "bc80:34,1bc89:170,1bc90:34,1bc9a:170,1bc9c:34,1bca0:24,1bca4:170,1cc00:24,1ccfa:170,1cd00:24,1ceb4:170,1cf00:57,1cf2e:170,1cf30:57,1cf47:170,1cf50:24,1cfc4:170,1d000:24,1d0f6:170,1d100:24,1d127:170,1d129:24,1d167:57,1d16a:24,1d17b:57,1d183:24,1d185:57,1d18c:24,1d1aa:57,1d1ae:24,1d1eb:170,1d200:44,1d246:170,1d2c0:24,1d2d4:170,1d2e0:24,1d2f4:170,1d300:24,1d357:170,1d360:24,1d379:170,1d400:24,1d455:170,1d456:24,1d49d:170,1d49e:24,1d4a0:170,1d4a2:24,1d4a3:170,1d4a5:24,1d4a7:170,1d4a9:24,1d4ad:170,1d4ae:24,1d4ba:170,1d4bb:24,1d4bc:170,1d4bd:24,1d4c4:170,1d4c5:24,1d506:170,1d507:24,1d50b:170,1d50d:24,1d515:170,1d516:24,1d51d:170,1d51e:24,1d53a:170,1d53b:24,1d53f:170,1d540:24,1d545:170,1d546:24,1d547:170,1d54a:24,1d551:170,1d552:24,1d6a6:170,1d6a8:24,1d7cc:170,1d7ce:24,1d800:135,1da8c:170,1da9b:135,1daa0:170,1daa1:135,1dab0:170,1df00:73,1df1f:170,1df25:73,1df2b:170,1e000:41,1e007:170,1e008:41,1e019:170,1e01b:41,1e022:170,1e023:41,1e025:170,1e026:41,1e02b:170,1e030:29,1e06e:170,1e08f:29,1e090:170,1e100:106,1e12d:170,1e130:106,1e13e:170,1e140:106,1e14a:170,1e14e:106,1e150:170,1e290:160,1e2af:170,1e2c0:165,1e2fa:170,1e2ff:165,1e300:170,1e4d0:100,1e4fa:170,1e5d0:109,1e5fb:170,1e5ff:109,1e600:170,1e7e0:38,1e7e7:170,1e7e8:38,1e7ec:170,1e7ed:38,1e7ef:170,1e7f0:38,1e7ff:170,1e800:90,1e8c5:170,1e8c7:90,1e8d7:170,1e900:0,1e94c:170,1e950:0,1e95a:170,1e95e:0,1e960:170,1ec71:24,1ecb5:170,1ed01:24,1ed3e:170,1ee00:3,1ee04:170,1ee05:3,1ee20:170,1ee21:3,1ee23:170,1ee24:3,1ee25:170,1ee27:3,1ee28:170,1ee29:3,1ee33:170,1ee34:3,1ee38:170,1ee39:3,1ee3a:170,1ee3b:3,1ee3c:170,1ee42:3,1ee43:170,1ee47:3,1ee48:170,1ee49:3,1ee4a:170,1ee4b:3,1ee4c:170,1ee4d:3,1ee50:170,1ee51:3,1ee53:170,1ee54:3,1ee55:170,1ee57:3,1ee58:170,1ee59:3,1ee5a:170,1ee5b:3,1ee5c:170,1ee5d:3,1ee5e:170,1ee5f:3,1ee60:170,1ee61:3,1ee63:170,1ee64:3,1ee65:170,1ee67:3,1ee6b:170,1ee6c:3,1ee73:170,1ee74:3,1ee78:170,1ee79:3,1ee7d:170,1ee7e:3,1ee7f:170,1ee80:3,1ee8a:170,1ee8b:3,1ee9c:170,1eea1:3,1eea4:170,1eea5:3,1eeaa:170,1eeab:3,1eebc:" ++
  "170,1eef0:3,1eef2:170,1f000:24,1f02c:170,1f030:24,1f094:170,1f0a0:24,1f0af:170,1f0b1:24,1f0c0:170,1f0c1:24,1f0d0:170,1f0d1:24,1f0f6:170,1f100:24,1f1ae:170,1f1e6:24,1f200:55,1f201:24,1f203:170,1f210:24,1f23c:170,1f240:24,1f249:170,1f250:24,1f252:170,1f260:24,1f266:170,1f300:24,1f6d8:170,1f6dc:24,1f6ed:170,1f6f0:24,1f6fd:170,1f700:24,1f777:170,1f77b:24,1f7da:170,1f7e0:24,1f7ec:170,1f7f0:24,1f7f1:170,1f800:24,1f80c:170,1f810:24,1f848:170,1f850:24,1f85a:170,1f860:24,1f888:170,1f890:24,1f8ae:170,1f8b0:24,1f8bc:170,1f8c0:24,1f8c2:170,1f900:24,1fa54:170,1fa60:24,1fa6e:170,1fa70:24,1fa7d:170,1fa80:24,1fa8a:170,1fa8f:24,1fac7:170,1face:24,1fadd:170,1fadf:24,1faea:170,1faf0:24,1faf9:170,1fb00:24,1fb93:170,1fb94:24,1fbfa:170,20000:49,2a6e0:170,2a700:49,2b73a:170,2b740:49,2b81e:170,2b820:49,2cea2:170,2ceb0:49,2ebe1:170,2ebf0:49,2ee5e:170,2f800:49,2fa1e:170,30000:49,3134b:170,31350:49,323b0:170,e0001:24,e0002:170,e0020:24,e0080:170,e0100:57,e01f0:170"

/-- The sets of scripts that characters extend to, as positions in `scriptNames`. -/
def extensionSets : Array (List Nat) :=
  #[[],
    [24],
    [73],
    [5, 18, 25, 34, 36, 40, 41, 42, 44, 46, 49, 73, 80, 81, 113, 133],
    [10, 29, 31, 73, 78, 155, 160],
    [12, 73],
    [73, 78],
    [73, 155],
    [12],
    [22, 25, 29, 44, 73, 113, 141, 146],
    [22, 29, 44, 73, 120, 141, 146, 159],
    [22, 29, 73, 157],
    [41, 73, 141, 143, 155],
    [19, 22, 25, 29, 42, 44, 73, 120, 143, 157, 159],
    [25, 36, 41, 42, 63, 73],
    [29, 44, 73, 113, 157],
    [25, 34, 54, 73, 113, 143, 146, 157, 159],
    [4, 29, 34, 42, 44, 54, 73, 113, 143, 146, 157],
    [73, 157],
    [34, 73, 143],
    [22, 29, 73, 120],
    [22, 73, 146],
    [73, 141],
    [38, 73],
    [57],
    [29, 73, 159],
    [44, 73, 113, 159],
    [143],
    [22, 34, 63, 73, 143, 157],
    [22, 34, 73, 143],
    [73, 143],
    [73, 141, 143],
    [22, 73, 143],
    [19, 22, 42, 73, 141, 155],
    [44],
    [73, 120],
    [19, 73, 159],
    [25, 44],
    [25],
    [29],
    [29, 113],
    [29, 41],
    [29, 73],
    [4],
    [4, 40, 41],
    [54],
    [3],
    [3, 39, 51, 104, 143, 154, 167],
    [3, 143, 154],
    [0, 3, 39, 51, 104, 143, 154, 167],
    [0, 3, 51, 84, 85, 118, 127, 137, 143],
    [3, 143],
    [3, 154, 167],
    [3, 51],
    [154],
    [104],
    [130],
    [84],
    [31],
    [10, 31, 43, 45, 47, 62, 73, 83, 119, 132, 150, 153, 158],
    [10, 31, 43, 45, 47, 62, 73, 83, 119, 150, 153, 158],
    [10, 31, 33, 43, 45, 46, 47, 62, 70, 81, 83, 87, 101, 109, 119, 136, 142, 149, 150, 153, 158],
    [10, 31, 33, 43, 45, 46, 47, 48, 62, 70, 75, 81, 83, 87, 101, 109, 119, 136, 142, 149, 150, 153, 158],
    [31, 33, 61, 81],
    [10],
    [10, 20, 142],
    [47],
    [47, 97],
    [45],
    [45, 69],
    [119],
    [150],
    [43, 150],
    [153],
    [62],
    [62, 101, 161],
    [83],
    [136],
    [155],
    [72],
    [156],
    [98],
    [20, 98, 146],
    [40],
    [40, 41, 73],
    [50],
    [38],
    [22],
    [17],
    [107],
    [129],
    [144],
    [52],
    [16, 52, 144, 145],
    [16],
    [145],
    [68],
    [95],
    [95, 125],
    [75],
    [146],
    [102],
    [15],
    [147],
    [6],
    [140],
    [9],
    [74],
    [108],
    [10, 31, 43, 62],
    [31, 43, 62],
    [10, 31],
    [31, 132],
    [31, 62, 83, 119, 150, 153],
    [31, 101],
    [10, 31, 43, 62, 83, 101, 119, 136, 153, 158, 161],
    [31, 43],
    [31, 43, 62, 161],
    [101],
    [29, 73, 143],
    [73, 95, 125],
    [0, 3],
    [18, 40, 41, 79, 110, 117],
    [18, 44, 92, 110],
    [31, 43, 73],
    [14],
    [41],
    [157],
    [25, 73],
    [5, 117],
    [5, 18, 40, 61, 80, 110, 130],
    [34],
    [0, 3, 110],
    [49],
    [49, 152],
    [12, 49, 50, 55, 63, 95, 168],
    [12, 49, 50, 55, 63, 95, 125, 168],
    [12, 49, 50, 55, 63],
    [12, 49, 50, 55, 63, 95, 156, 168],
    [12, 49, 50, 55, 63, 78, 95, 156, 168],
    [12, 49, 50, 55, 63, 168],
    [12, 49],
    [55, 63],
    [49, 55, 63],
    [55],
    [63],
    [168],
    [78],
    [163],
    [7],
    [49, 73],
    [142],
    [31, 33, 45, 47, 61, 62, 69, 70, 81, 83, 94, 101, 132, 149, 158, 161],
    [31, 33, 45, 47, 61, 62, 69, 70, 81, 94, 101, 132, 149, 158, 161],
    [31, 33, 45, 47, 61, 69, 70, 81, 94, 149, 158],
    [31, 33, 45, 47, 61, 69, 70, 81, 94, 132, 149, 158],
    [125],
    [131],
    [10, 31, 161],
    [31, 150],
    [65],
    [65, 73, 98],
    [128],
    [60],
    [15, 60],
    [21],
    [148],
    [89],
    [3, 104],
    [3, 154],
    [77],
    [27, 28, 77],
    [27, 77],
    [27, 76, 77],
    [79],
    [18],
    [3, 25],
    [111],
    [42],
    [113],
    [162],
    [114],
    [30],
    [133],
    [121],
    [120],
    [36],
    [19],
    [164],
    [159],
    [76],
    [27],
    [56],
    [123],
    [99],
    [53],
    [126],
    [80],
    [92],
    [91],
    [66],
    [116],
    [112],
    [85],
    [85, 118],
    [5],
    [59],
    [58],
    [127],
    [117],
    [110],
    [51],
    [39],
    [167],
    [115],
    [137],
    [118],
    [23],
    [37],
    [13],
    [61],
    [138],
    [20],
    [81],
    [132],
    [69],
    [97],
    [70],
    [43],
    [161],
    [103],
    [158],
    [134],
    [94],
    [149],
    [1],
    [33],
    [166],
    [32],
    [169],
    [139],
    [124],
    [141],
    [11],
    [86],
    [87],
    [46],
    [82],
    [64],
    [26],
    [28],
    [35],
    [2],
    [48],
    [96],
    [151],
    [8],
    [122],
    [71],
    [88],
    [93],
    [152],
    [105],
    [67],
    [135],
    [106],
    [160],
    [165],
    [100],
    [109],
    [90],
    [0]]

/-- Script extension runs; the numbers are positions in `extensionSets`. -/
def extensionText : String :=
  "0:1,41:2,5b:1,61:2,7b:1,aa:2,ab:1,b7:3,b8:1,ba:2,bb:1,c0:2,d7:1,d8:2,f7:1,f8:2,2b9:1,2bc:4,2bd:1,2c7:5,2c8:1,2c9:5,2cc:1,2cd:6,2ce:1,2d7:7,2d8:1,2d9:5,2da:1,2e0:2,2e5:1,2ea:8,2ec:1,300:9,301:10,302:11,303:12,304:13,305:14,306:15,307:16,308:17,309:18,30a:19,30b:20,30c:21,30d:22,30e:23,30f:24,310:22,311:25,312:24,313:26,314:24,320:27,321:24,323:28,324:29,325:30,326:24,32d:31,32e:30,32f:24,330:32,331:33,332:24,342:34,343:24,345:34,346:24,358:35,359:24,35e:36,35f:24,363:2,370:34,374:37,376:34,378:0,37a:34,37e:1,37f:34,380:0,384:34,385:1,386:34,387:1,388:34,38b:0,38c:34,38d:0,38e:34,3a2:0,3a3:34,3e2:38,3f0:34,400:39,483:40,484:41,485:42,487:41,488:39,530:0,531:43,557:0,559:43,589:44,58a:43,58b:0,58d:43,590:0,591:45,5c8:0,5d0:45,5eb:0,5ef:45,5f5:0,600:46,605:1,606:46,60c:47,60d:46,61b:47,61c:48,61d:46,61f:49,620:46,640:50,641:46,64b:51,656:46,660:52,66a:46,670:51,671:46,6d4:53,6d5:46,6dd:1,6de:46,700:27,70e:0,70f:27,74b:0,74d:27,750:46,780:54,7b2:0,7c0:55,7fb:0,7fd:55,800:56,82e:0,830:56,83f:0,840:57,85c:0,85e:57,85f:0,860:27,86b:0,870:46,88f:0,890:46,892:0,897:46,8e2:1,8e3:46,900:58,951:59,952:60,953:24,955:58,964:61,965:62,966:63,970:58,980:64,984:0,985:64,98d:0,98f:64,991:0,993:64,9a9:0,9aa:64,9b1:0,9b2:64,9b3:0,9b6:64,9ba:0,9bc:64,9c5:0,9c7:64,9c9:0,9cb:64,9cf:0,9d7:64,9d8:0,9dc:64,9de:0,9df:64,9e4:0,9e6:65,9f0:64,9ff:0,a01:66,a04:0,a05:66,a0b:0,a0f:66,a11:0,a13:66,a29:0,a2a:66,a31:0,a32:66,a34:0,a35:66,a37:0,a38:66,a3a:0,a3c:66,a3d:0,a3e:66,a43:0,a47:66,a49:0,a4b:66,a4e:0,a51:66,a52:0,a59:66,a5d:0,a5e:66,a5f:0,a66:67,a70:66,a77:0,a81:68,a84:0,a85:68,a8e:0,a8f:68,a92:0,a93:68,aa9:0,aaa:68,ab1:0,ab2:68,ab4:0,ab5:68,aba:0,abc:68,ac6:0,ac7:68,aca:0,acb:68,ace:0,ad0:68,ad1:0,ae0:68,ae4:0,ae6:69,af0:68,af2:0,af9:68,b00:0,b01:70,b04:0,b05:70,b0d:0,b0f:70,b11:0,b13:70,b29:0,b2a:70,b31:0,b32:70,b34:0,b35:70,b3a:0,b3c:70,b45:0,b47:70,b49:0,b4b:70,b4e:0,b55:70,b58:0,b5c:70,b5e:0,b5f:70,b64:0,b66:70,b78:0,b82:71,b84:0,b85:71,b8b:0,b8e:71,b91:0,b92:71,b96:0,b99:71,b9b:0,b9c:71,b9" ++
  "d:0,b9e:71,ba0:0,ba3:71,ba5:0,ba8:71,bab:0,bae:71,bba:0,bbe:71,bc3:0,bc6:71,bc9:0,bca:71,bce:0,bd0:71,bd1:0,bd7:71,bd8:0,be6:72,bf4:71,bfb:0,c00:73,c0d:0,c0e:73,c11:0,c12:73,c29:0,c2a:73,c3a:0,c3c:73,c45:0,c46:73,c49:0,c4a:73,c4e:0,c55:73,c57:0,c58:73,c5b:0,c5d:73,c5e:0,c60:73,c64:0,c66:73,c70:0,c77:73,c80:74,c8d:0,c8e:74,c91:0,c92:74,ca9:0,caa:74,cb4:0,cb5:74,cba:0,cbc:74,cc5:0,cc6:74,cc9:0,cca:74,cce:0,cd5:74,cd7:0,cdd:74,cdf:0,ce0:74,ce4:0,ce6:75,cf0:0,cf1:74,cf4:0,d00:76,d0d:0,d0e:76,d11:0,d12:76,d45:0,d46:76,d49:0,d4a:76,d50:0,d54:76,d64:0,d66:76,d80:0,d81:77,d84:0,d85:77,d97:0,d9a:77,db2:0,db3:77,dbc:0,dbd:77,dbe:0,dc0:77,dc7:0,dca:77,dcb:0,dcf:77,dd5:0,dd6:77,dd7:0,dd8:77,de0:0,de6:77,df0:0,df2:77,df5:0,e01:78,e3b:0,e3f:1,e40:78,e5c:0,e81:79,e83:0,e84:79,e85:0,e86:79,e8b:0,e8c:79,ea4:0,ea5:79,ea6:0,ea7:79,ebe:0,ec0:79,ec5:0,ec6:79,ec7:0,ec8:79,ecf:0,ed0:79,eda:0,edc:79,ee0:0,f00:80,f48:0,f49:80,f6d:0,f71:80,f98:0,f99:80,fbd:0,fbe:80,fcd:0,fce:80,fd5:1,fd9:80,fdb:0,1000:81,1040:82,104a:81,10a0:83,10c6:0,10c7:83,10c8:0,10cd:83,10ce:0,10d0:83,10fb:84,10fc:83,1100:85,1200:86,1249:0,124a:86,124e:0,1250:86,1257:0,1258:86,1259:0,125a:86,125e:0,1260:86,1289:0,128a:86,128e:0,1290:86,12b1:0,12b2:86,12b6:0,12b8:86,12bf:0,12c0:86,12c1:0,12c2:86,12c6:0,12c8:86,12d7:0,12d8:86,1311:0,1312:86,1316:0,1318:86,135b:0,135d:86,137d:0,1380:86,139a:0,13a0:87,13f6:0,13f8:87,13fe:0,1400:88,1680:89,169d:0,16a0:90,16f9:0,1700:91,1716:0,171f:91,1720:92,1735:93,1737:0,1740:94,1754:0,1760:95,176d:0,176e:95,1771:0,1772:95,1774:0,1780:96,17de:0,17e0:96,17ea:0,17f0:96,17fa:0,1800:97,1802:98,1804:97,1805:98,1806:97,181a:0,1820:97,1879:0,1880:97,18ab:0,18b0:88,18f6:0,1900:99,191f:0,1920:99,192c:0,1930:99,193c:0,1940:99,1941:0,1944:99,1950:100,196e:0,1970:100,1975:0,1980:101,19ac:0,19b0:101,19ca:0,19d0:101,19db:0,19de:101,19e0:96,1a00:102,1a1c:0,1a1e:102,1a20:103,1a5f:0,1a60:103,1a7d:0,1a7f:103,1a8a:0,1a90:103,1a9a:0,1aa0:103,1aae:0,1ab0:24,1acf:0,1b00:104,1b4d:0,1b4e:104,1b80:105,1bc0:106,1bf4" ++
  ":0,1bfc:106,1c00:107,1c38:0,1c3b:107,1c4a:0,1c4d:107,1c50:108,1c80:39,1c8b:0,1c90:83,1cbb:0,1cbd:83,1cc0:105,1cc8:0,1cd0:109,1cd1:58,1cd2:109,1cd3:110,1cd4:58,1cd5:111,1cd7:112,1cd8:111,1cd9:112,1cda:113,1cdb:58,1cdc:112,1cde:58,1ce0:112,1ce1:111,1ce2:58,1ce9:114,1cea:111,1ceb:58,1ced:111,1cee:58,1cf2:115,1cf3:116,1cf4:117,1cf5:111,1cf7:64,1cf8:116,1cfa:118,1cfb:0,1d00:2,1d26:34,1d2b:39,1d2c:2,1d5d:34,1d62:2,1d66:34,1d6b:2,1d78:39,1d79:2,1dbf:34,1dc2:24,1df8:119,1df9:24,1dfa:27,1dfb:24,1e00:2,1f00:34,1f16:0,1f18:34,1f1e:0,1f20:34,1f46:0,1f48:34,1f4e:0,1f50:34,1f58:0,1f59:34,1f5a:0,1f5b:34,1f5c:0,1f5d:34,1f5e:0,1f5f:34,1f7e:0,1f80:34,1fb5:0,1fb6:34,1fc5:0,1fc6:34,1fd4:0,1fd6:34,1fdc:0,1fdd:34,1ff0:0,1ff2:34,1ff5:0,1ff6:34,1fff:0,2000:1,200c:24,200e:1,202f:120,2030:1,204f:121,2050:1,205a:122,205b:1,205d:123,205e:1,2065:0,2066:1,2071:2,2072:0,2074:1,207f:2,2080:1,208f:0,2090:2,209d:0,20a0:1,20c1:0,20d0:24,20f0:124,20f1:0,2100:1,2126:34,2127:1,212a:2,212c:1,2132:2,2133:1,214e:2,214f:1,2160:2,2189:1,218c:0,2190:1,242a:0,2440:1,244b:0,2460:1,2800:125,2900:1,2b74:0,2b76:1,2b96:0,2b97:1,2c00:126,2c60:2,2c80:38,2cf4:0,2cf9:38,2d00:83,2d26:0,2d27:83,2d28:0,2d2d:83,2d2e:0,2d30:127,2d68:0,2d6f:127,2d71:0,2d7f:127,2d80:86,2d97:0,2da0:86,2da7:0,2da8:86,2daf:0,2db0:86,2db7:0,2db8:86,2dbf:0,2dc0:86,2dc7:0,2dc8:86,2dcf:0,2dd0:86,2dd7:0,2dd8:86,2ddf:0,2de0:39,2e00:1,2e17:128,2e18:1,2e30:129,2e31:130,2e32:1,2e3c:131,2e3d:1,2e41:132,2e42:1,2e43:41,2e44:1,2e5e:0,2e80:133,2e9a:0,2e9b:133,2ef4:0,2f00:133,2fd6:0,2ff0:134,3000:1,3001:135,3002:136,3003:137,3004:1,3005:133,3008:138,300a:139,300c:140,3012:1,3013:137,3014:140,301c:137,3020:1,3021:133,302a:141,302e:85,3030:137,3031:142,3036:1,3037:137,3038:133,303c:143,303e:133,3040:0,3041:144,3097:0,3099:142,309d:144,30a0:142,30a1:145,30fb:140,30fc:142,30fd:145,3100:0,3105:8,3130:0,3131:85,318f:0,3190:133,31a0:8,31c0:133,31e6:0,31ef:134,31f0:145,3200:85,321f:0,3220:133,3248:1,3260:85,327f:1,3280:133,32b1:1,32c0:133,32cc:1,32d0:145,32ff:133,3300" ++
  ":145,3358:133,3371:1,337b:133,3380:1,33e0:133,33ff:1,3400:133,4dc0:1,4e00:133,a000:146,a48d:0,a490:146,a4c7:0,a4d0:147,a500:148,a62c:0,a640:39,a66f:41,a670:39,a6a0:149,a6f8:0,a700:150,a708:1,a722:2,a788:1,a78b:2,a7ce:0,a7d0:2,a7d2:0,a7d3:2,a7d4:0,a7d5:2,a7dd:0,a7f2:2,a800:151,a82d:0,a830:152,a833:153,a836:154,a838:155,a839:154,a83a:0,a840:156,a878:0,a880:157,a8c6:0,a8ce:157,a8da:0,a8e0:58,a8f1:158,a8f2:58,a8f3:159,a8f4:58,a900:160,a92e:161,a92f:160,a930:162,a954:0,a95f:162,a960:85,a97d:0,a980:163,a9ce:0,a9cf:164,a9d0:163,a9da:0,a9de:163,a9e0:81,a9ff:0,aa00:165,aa37:0,aa40:165,aa4e:0,aa50:165,aa5a:0,aa5c:165,aa60:81,aa80:166,aac3:0,aadb:166,aae0:167,aaf7:0,ab01:86,ab07:0,ab09:86,ab0f:0,ab11:86,ab17:0,ab20:86,ab27:0,ab28:86,ab2f:0,ab30:2,ab5b:1,ab5c:2,ab65:34,ab66:2,ab6a:1,ab6c:0,ab70:87,abc0:167,abee:0,abf0:167,abfa:0,ac00:85,d7a4:0,d7b0:85,d7c7:0,d7cb:85,d7fc:0,f900:133,fa6e:0,fa70:133,fada:0,fb00:2,fb07:0,fb13:43,fb18:0,fb1d:45,fb37:0,fb38:45,fb3d:0,fb3e:45,fb3f:0,fb40:45,fb42:0,fb43:45,fb45:0,fb46:45,fb50:46,fbc3:0,fbd3:46,fd3e:168,fd40:46,fd90:0,fd92:46,fdc8:0,fdcf:46,fdd0:0,fdf0:46,fdf2:169,fdf3:46,fdfd:169,fdfe:46,fe00:24,fe10:1,fe1a:0,fe20:24,fe2e:39,fe30:1,fe45:137,fe47:1,fe53:0,fe54:1,fe67:0,fe68:1,fe6c:0,fe70:46,fe75:0,fe76:46,fefd:0,feff:1,ff00:0,ff01:1,ff21:2,ff3b:1,ff41:2,ff5b:1,ff61:140,ff66:145,ff70:142,ff71:145,ff9e:142,ffa0:85,ffbf:0,ffc2:85,ffc8:0,ffca:85,ffd0:0,ffd2:85,ffd8:0,ffda:85,ffdd:0,ffe0:1,ffe7:0,ffe8:1,ffef:0,fff9:1,fffe:0,10000:170,1000c:0,1000d:170,10027:0,10028:170,1003b:0,1003c:170,1003e:0,1003f:170,1004e:0,10050:170,1005e:0,10080:170,100fb:0,10100:171,10102:172,10103:0,10107:173,10134:0,10137:172,10140:34,1018f:0,10190:1,1019d:0,101a0:34,101a1:0,101d0:1,101fd:24,101fe:0,10280:174,1029d:0,102a0:175,102d1:0,102e0:176,102fc:0,10300:177,10324:0,1032d:177,10330:178,1034b:0,10350:179,1037b:0,10380:180,1039e:0,1039f:180,103a0:181,103c4:0,103c8:181,103d6:0,10400:182,10450:183,10480:184,1049e:0,104a0:184,104aa:0,104b0:185,104d4:0,104d8:185,104" ++
  "fc:0,10500:186,10528:0,10530:187,10564:0,1056f:187,10570:188,1057b:0,1057c:188,1058b:0,1058c:188,10593:0,10594:188,10596:0,10597:188,105a2:0,105a3:188,105b2:0,105b3:188,105ba:0,105bb:188,105bd:0,105c0:189,105f4:0,10600:190,10737:0,10740:190,10756:0,10760:190,10768:0,10780:2,10786:0,10787:2,107b1:0,107b2:2,107bb:0,10800:191,10806:0,10808:191,10809:0,1080a:191,10836:0,10837:191,10839:0,1083c:191,1083d:0,1083f:191,10840:192,10856:0,10857:192,10860:193,10880:194,1089f:0,108a7:194,108b0:0,108e0:195,108f3:0,108f4:195,108f6:0,108fb:195,10900:196,1091c:0,1091f:196,10920:197,1093a:0,1093f:197,10940:0,10980:198,109a0:199,109b8:0,109bc:199,109d0:0,109d2:199,10a00:200,10a04:0,10a05:200,10a07:0,10a0c:200,10a14:0,10a15:200,10a18:0,10a19:200,10a36:0,10a38:200,10a3b:0,10a3f:200,10a49:0,10a50:200,10a59:0,10a60:201,10a80:202,10aa0:0,10ac0:203,10ae7:0,10aeb:203,10af2:204,10af3:203,10af7:0,10b00:205,10b36:0,10b39:205,10b40:206,10b56:0,10b58:206,10b60:207,10b73:0,10b78:207,10b80:208,10b92:0,10b99:208,10b9d:0,10ba9:208,10bb0:0,10c00:209,10c49:0,10c80:210,10cb3:0,10cc0:210,10cf3:0,10cfa:210,10d00:211,10d28:0,10d30:211,10d3a:0,10d40:212,10d66:0,10d69:212,10d86:0,10d8e:212,10d90:0,10e60:46,10e7f:0,10e80:213,10eaa:0,10eab:213,10eae:0,10eb0:213,10eb2:0,10ec2:46,10ec5:0,10efc:46,10f00:214,10f28:0,10f30:215,10f5a:0,10f70:216,10f8a:0,10fb0:217,10fcc:0,10fe0:218,10ff7:0,11000:219,1104e:0,11052:219,11076:0,1107f:219,11080:220,110c3:0,110cd:220,110ce:0,110d0:221,110e9:0,110f0:221,110fa:0,11100:222,11135:0,11136:222,11148:0,11150:223,11177:0,11180:224,111e0:0,111e1:77,111f5:0,11200:225,11212:0,11213:225,11242:0,11280:226,11287:0,11288:226,11289:0,1128a:226,1128e:0,1128f:226,1129e:0,1129f:226,112aa:0,112b0:227,112eb:0,112f0:227,112fa:0,11300:228,11301:72,11302:228,11303:72,11304:0,11305:228,1130d:0,1130f:228,11311:0,11313:228,11329:0,1132a:228,11331:0,11332:228,11334:0,11335:228,1133a:0,1133b:72,1133d:228,11345:0,11347:228,11349:0,1134b:228,1134e:0,11350:228,11351:0,11357:228,11358:0,1135d:228,11364:" ++
  "0,11366:228,1136d:0,11370:228,11375:0,11380:229,1138a:0,1138b:229,1138c:0,1138e:229,1138f:0,11390:229,113b6:0,113b7:229,113c1:0,113c2:229,113c3:0,113c5:229,113c6:0,113c7:229,113cb:0,113cc:229,113d6:0,113d7:229,113d9:0,113e1:229,113e3:0,11400:230,1145c:0,1145d:230,11462:0,11480:231,114c8:0,114d0:231,114da:0,11580:232,115b6:0,115b8:232,115de:0,11600:233,11645:0,11650:233,1165a:0,11660:97,1166d:0,11680:234,116ba:0,116c0:234,116ca:0,116d0:81,116e4:0,11700:235,1171b:0,1171d:235,1172c:0,11730:235,11747:0,11800:236,1183c:0,118a0:237,118f3:0,118ff:237,11900:238,11907:0,11909:238,1190a:0,1190c:238,11914:0,11915:238,11917:0,11918:238,11936:0,11937:238,11939:0,1193b:238,11947:0,11950:238,1195a:0,119a0:118,119a8:0,119aa:118,119d8:0,119da:118,119e5:0,11a00:239,11a48:0,11a50:240,11aa3:0,11ab0:88,11ac0:241,11af9:0,11b00:58,11b0a:0,11bc0:242,11be2:0,11bf0:242,11bfa:0,11c00:243,11c09:0,11c0a:243,11c37:0,11c38:243,11c46:0,11c50:243,11c6d:0,11c70:244,11c90:0,11c92:244,11ca8:0,11ca9:244,11cb7:0,11d00:245,11d07:0,11d08:245,11d0a:0,11d0b:245,11d37:0,11d3a:245,11d3b:0,11d3c:245,11d3e:0,11d3f:245,11d48:0,11d50:245,11d5a:0,11d60:246,11d66:0,11d67:246,11d69:0,11d6a:246,11d8f:0,11d90:246,11d92:0,11d93:246,11d99:0,11da0:246,11daa:0,11ee0:247,11ef9:0,11f00:248,11f11:0,11f12:248,11f3b:0,11f3e:248,11f5b:0,11fb0:147,11fb1:0,11fc0:71,11fd0:72,11fd2:71,11fd3:72,11fd4:71,11ff2:0,11fff:71,12000:249,1239a:0,12400:249,1246f:0,12470:249,12475:0,12480:249,12544:0,12f90:250,12ff3:0,13000:251,13456:0,13460:251,143fb:0,14400:252,14647:0,16100:253,1613a:0,16800:149,16a39:0,16a40:254,16a5f:0,16a60:254,16a6a:0,16a6e:254,16a70:255,16abf:0,16ac0:255,16aca:0,16ad0:256,16aee:0,16af0:256,16af6:0,16b00:257,16b46:0,16b50:257,16b5a:0,16b5b:257,16b62:0,16b63:257,16b78:0,16b7d:257,16b90:0,16d40:258,16d7a:0,16e40:259,16e9b:0,16f00:260,16f4b:0,16f4f:260,16f88:0,16f8f:260,16fa0:0,16fe0:261,16fe1:262,16fe2:133,16fe4:263,16fe5:0,16ff0:133,16ff2:0,17000:261,187f8:0,18800:261,18b00:263,18cd6:0,18cff:263,18d00:261,18d09:0,1aff0:" ++
  "145,1aff4:0,1aff5:145,1affc:0,1affd:145,1afff:0,1b000:145,1b001:144,1b120:145,1b123:0,1b132:144,1b133:0,1b150:144,1b153:0,1b155:145,1b156:0,1b164:145,1b168:0,1b170:262,1b2fc:0,1bc00:131,1bc6b:0,1bc70:131,1bc7d:0,1bc80:131,1bc89:0,1bc90:131,1bc9a:0,1bc9c:131,1bca4:0,1cc00:1,1ccfa:0,1cd00:1,1ceb4:0,1cf00:24,1cf2e:0,1cf30:24,1cf47:0,1cf50:1,1cfc4:0,1d000:1,1d0f6:0,1d100:1,1d127:0,1d129:1,1d167:24,1d16a:1,1d17b:24,1d183:1,1d185:24,1d18c:1,1d1aa:24,1d1ae:1,1d1eb:0,1d200:34,1d246:0,1d2c0:1,1d2d4:0,1d2e0:1,1d2f4:0,1d300:1,1d357:0,1d360:133,1d372:1,1d379:0,1d400:1,1d455:0,1d456:1,1d49d:0,1d49e:1,1d4a0:0,1d4a2:1,1d4a3:0,1d4a5:1,1d4a7:0,1d4a9:1,1d4ad:0,1d4ae:1,1d4ba:0,1d4bb:1,1d4bc:0,1d4bd:1,1d4c4:0,1d4c5:1,1d506:0,1d507:1,1d50b:0,1d50d:1,1d515:0,1d516:1,1d51d:0,1d51e:1,1d53a:0,1d53b:1,1d53f:0,1d540:1,1d545:0,1d546:1,1d547:0,1d54a:1,1d551:0,1d552:1,1d6a6:0,1d6a8:1,1d7cc:0,1d7ce:1,1d800:264,1da8c:0,1da9b:264,1daa0:0,1daa1:264,1dab0:0,1df00:2,1df1f:0,1df25:2,1df2b:0,1e000:126,1e007:0,1e008:126,1e019:0,1e01b:126,1e022:0,1e023:126,1e025:0,1e026:126,1e02b:0,1e030:39,1e06e:0,1e08f:39,1e090:0,1e100:265,1e12d:0,1e130:265,1e13e:0,1e140:265,1e14a:0,1e14e:265,1e150:0,1e290:266,1e2af:0,1e2c0:267,1e2fa:0,1e2ff:267,1e300:0,1e4d0:268,1e4fa:0,1e5d0:269,1e5fb:0,1e5ff:269,1e600:0,1e7e0:86,1e7e7:0,1e7e8:86,1e7ec:0,1e7ed:86,1e7ef:0,1e7f0:86,1e7ff:0,1e800:270,1e8c5:0,1e8c7:270,1e8d7:0,1e900:271,1e94c:0,1e950:271,1e95a:0,1e95e:271,1e960:0,1ec71:1,1ecb5:0,1ed01:1,1ed3e:0,1ee00:46,1ee04:0,1ee05:46,1ee20:0,1ee21:46,1ee23:0,1ee24:46,1ee25:0,1ee27:46,1ee28:0,1ee29:46,1ee33:0,1ee34:46,1ee38:0,1ee39:46,1ee3a:0,1ee3b:46,1ee3c:0,1ee42:46,1ee43:0,1ee47:46,1ee48:0,1ee49:46,1ee4a:0,1ee4b:46,1ee4c:0,1ee4d:46,1ee50:0,1ee51:46,1ee53:0,1ee54:46,1ee55:0,1ee57:46,1ee58:0,1ee59:46,1ee5a:0,1ee5b:46,1ee5c:0,1ee5d:46,1ee5e:0,1ee5f:46,1ee60:0,1ee61:46,1ee63:0,1ee64:46,1ee65:0,1ee67:46,1ee6b:0,1ee6c:46,1ee73:0,1ee74:46,1ee78:0,1ee79:46,1ee7d:0,1ee7e:46,1ee7f:0,1ee80:46,1ee8a:0,1ee8b:46,1ee9c:0,1eea1:46,1eea4:0,1eea5:46,1" ++
  "eeaa:0,1eeab:46,1eebc:0,1eef0:46,1eef2:0,1f000:1,1f02c:0,1f030:1,1f094:0,1f0a0:1,1f0af:0,1f0b1:1,1f0c0:0,1f0c1:1,1f0d0:0,1f0d1:1,1f0f6:0,1f100:1,1f1ae:0,1f1e6:1,1f200:144,1f201:1,1f203:0,1f210:1,1f23c:0,1f240:1,1f249:0,1f250:133,1f252:0,1f260:1,1f266:0,1f300:1,1f6d8:0,1f6dc:1,1f6ed:0,1f6f0:1,1f6fd:0,1f700:1,1f777:0,1f77b:1,1f7da:0,1f7e0:1,1f7ec:0,1f7f0:1,1f7f1:0,1f800:1,1f80c:0,1f810:1,1f848:0,1f850:1,1f85a:0,1f860:1,1f888:0,1f890:1,1f8ae:0,1f8b0:1,1f8bc:0,1f8c0:1,1f8c2:0,1f900:1,1fa54:0,1fa60:1,1fa6e:0,1fa70:1,1fa7d:0,1fa80:1,1fa8a:0,1fa8f:1,1fac7:0,1face:1,1fadd:0,1fadf:1,1faea:0,1faf0:1,1faf9:0,1fb00:1,1fb93:0,1fb94:1,1fbfa:0,20000:133,2a6e0:0,2a700:133,2b73a:0,2b740:133,2b81e:0,2b820:133,2cea2:0,2ceb0:133,2ebe1:0,2ebf0:133,2ee5e:0,2f800:133,2fa1e:0,30000:133,3134b:0,31350:133,323b0:0,e0001:1,e0002:0,e0020:1,e0080:0,e0100:24,e01f0:0"

/-- The script runs, decoded. -/
def scriptRuns : Array (Nat × Nat) := Text.Compact.runs scriptText

/-- The script extension runs, decoded. -/
def extensionRuns : Array (Nat × Nat) := Text.Compact.runs extensionText

end Unicode

end ScriptLib
