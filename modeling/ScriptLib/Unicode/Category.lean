import ScriptLib.Text.Compact

/-!
# General categories

The general category of every code point in Unicode 16.0, the version of the tables
that patterns use. The categories are numbered by their place in `categoryNames`; the
table lists, in hexadecimal, each code point where the category changes, with the number
of the new one (`start:value`). Code points that no version up to 16.0 assigns are `Cn`.
-/

namespace ScriptLib

namespace Unicode

/-- The two-letter general categories, numbered from 0. -/
def categoryNames : Array String :=
  #["Lu", "Ll", "Lt", "Lm", "Lo", "Mn", "Mc", "Me", "Nd", "Nl", "No", "Pc", "Pd", "Ps", "Pe", "Pi", "Pf", "Po", "Sm", "Sc", "Sk", "So", "Zs", "Zl", "Zp", "Cc", "Cf", "Cs", "Co", "Cn"]

/-- General category runs. -/
def categoryText : String :=
  "0:25,20:22,21:17,24:19,25:17,28:13,29:14,2a:17,2b:18,2c:17,2d:12,2e:17,30:8,3a:17,3c:18,3f:17,41:0,5b:13,5c:17,5d:14,5e:20,5f:11,60:20,61:1,7b:13,7c:18,7d:14,7e:18,7f:25,a0:22,a1:17,a2:19,a6:21,a7:17,a8:20,a9:21,aa:4,ab:15,ac:18,ad:26,ae:21,af:20,b0:21,b1:18,b2:10,b4:20,b5:1,b6:17,b8:20,b9:10,ba:4,bb:16,bc:10,bf:17,c0:0,d7:18,d8:0,df:1,f7:18,f8:1,100:0,101:1,102:0,103:1,104:0,105:1,106:0,107:1,108:0,109:1,10a:0,10b:1,10c:0,10d:1,10e:0,10f:1,110:0,111:1,112:0,113:1,114:0,115:1,116:0,117:1,118:0,119:1,11a:0,11b:1,11c:0,11d:1,11e:0,11f:1,120:0,121:1,122:0,123:1,124:0,125:1,126:0,127:1,128:0,129:1,12a:0,12b:1,12c:0,12d:1,12e:0,12f:1,130:0,131:1,132:0,133:1,134:0,135:1,136:0,137:1,139:0,13a:1,13b:0,13c:1,13d:0,13e:1,13f:0,140:1,141:0,142:1,143:0,144:1,145:0,146:1,147:0,148:1,14a:0,14b:1,14c:0,14d:1,14e:0,14f:1,150:0,151:1,152:0,153:1,154:0,155:1,156:0,157:1,158:0,159:1,15a:0,15b:1,15c:0,15d:1,15e:0,15f:1,160:0,161:1,162:0,163:1,164:0,165:1,166:0,167:1,168:0,169:1,16a:0,16b:1,16c:0,16d:1,16e:0,16f:1,170:0,171:1,172:0,173:1,174:0,175:1,176:0,177:1,178:0,17a:1,17b:0,17c:1,17d:0,17e:1,181:0,183:1,184:0,185:1,186:0,188:1,189:0,18c:1,18e:0,192:1,193:0,195:1,196:0,199:1,19c:0,19e:1,19f:0,1a1:1,1a2:0,1a3:1,1a4:0,1a5:1,1a6:0,1a8:1,1a9:0,1aa:1,1ac:0,1ad:1,1ae:0,1b0:1,1b1:0,1b4:1,1b5:0,1b6:1,1b7:0,1b9:1,1bb:4,1bc:0,1bd:1,1c0:4,1c4:0,1c5:2,1c6:1,1c7:0,1c8:2,1c9:1,1ca:0,1cb:2,1cc:1,1cd:0,1ce:1,1cf:0,1d0:1,1d1:0,1d2:1,1d3:0,1d4:1,1d5:0,1d6:1,1d7:0,1d8:1,1d9:0,1da:1,1db:0,1dc:1,1de:0,1df:1,1e0:0,1e1:1,1e2:0,1e3:1,1e4:0,1e5:1,1e6:0,1e7:1,1e8:0,1e9:1,1ea:0,1eb:1,1ec:0,1ed:1,1ee:0,1ef:1,1f1:0,1f2:2,1f3:1,1f4:0,1f5:1,1f6:0,1f9:1,1fa:0,1fb:1,1fc:0,1fd:1,1fe:0,1ff:1,200:0,201:1,202:0,203:1,204:0,205:1,206:0,207:1,208:0,209:1,20a:0,20b:1,20c:0,20d:1,20e:0,20f:1,210:0,211:1,212:0,213:1,214:0,215:1,216:0,217:1,218:0,219:1,21a:0,21b:1,21c:0,21d:1,21e:0,21f:1,220:0,221:1,222:0,223:1,224:0,225:1,226:0,227:1,228:0,229:1,22a:0,22b:1,22c:0,22d:1,22e:0,22f:1,230:0,231:1,232:0,233:1,23a:0,23c:1,23d:0,2" ++
  "3f:1,241:0,242:1,243:0,247:1,248:0,249:1,24a:0,24b:1,24c:0,24d:1,24e:0,24f:1,294:4,295:1,2b0:3,2c2:20,2c6:3,2d2:20,2e0:3,2e5:20,2ec:3,2ed:20,2ee:3,2ef:20,300:5,370:0,371:1,372:0,373:1,374:3,375:20,376:0,377:1,378:29,37a:3,37b:1,37e:17,37f:0,380:29,384:20,386:0,387:17,388:0,38b:29,38c:0,38d:29,38e:0,390:1,391:0,3a2:29,3a3:0,3ac:1,3cf:0,3d0:1,3d2:0,3d5:1,3d8:0,3d9:1,3da:0,3db:1,3dc:0,3dd:1,3de:0,3df:1,3e0:0,3e1:1,3e2:0,3e3:1,3e4:0,3e5:1,3e6:0,3e7:1,3e8:0,3e9:1,3ea:0,3eb:1,3ec:0,3ed:1,3ee:0,3ef:1,3f4:0,3f5:1,3f6:18,3f7:0,3f8:1,3f9:0,3fb:1,3fd:0,430:1,460:0,461:1,462:0,463:1,464:0,465:1,466:0,467:1,468:0,469:1,46a:0,46b:1,46c:0,46d:1,46e:0,46f:1,470:0,471:1,472:0,473:1,474:0,475:1,476:0,477:1,478:0,479:1,47a:0,47b:1,47c:0,47d:1,47e:0,47f:1,480:0,481:1,482:21,483:5,488:7,48a:0,48b:1,48c:0,48d:1,48e:0,48f:1,490:0,491:1,492:0,493:1,494:0,495:1,496:0,497:1,498:0,499:1,49a:0,49b:1,49c:0,49d:1,49e:0,49f:1,4a0:0,4a1:1,4a2:0,4a3:1,4a4:0,4a5:1,4a6:0,4a7:1,4a8:0,4a9:1,4aa:0,4ab:1,4ac:0,4ad:1,4ae:0,4af:1,4b0:0,4b1:1,4b2:0,4b3:1,4b4:0,4b5:1,4b6:0,4b7:1,4b8:0,4b9:1,4ba:0,4bb:1,4bc:0,4bd:1,4be:0,4bf:1,4c0:0,4c2:1,4c3:0,4c4:1,4c5:0,4c6:1,4c7:0,4c8:1,4c9:0,4ca:1,4cb:0,4cc:1,4cd:0,4ce:1,4d0:0,4d1:1,4d2:0,4d3:1,4d4:0,4d5:1,4d6:0,4d7:1,4d8:0,4d9:1,4da:0,4db:1,4dc:0,4dd:1,4de:0,4df:1,4e0:0,4e1:1,4e2:0,4e3:1,4e4:0,4e5:1,4e6:0,4e7:1,4e8:0,4e9:1,4ea:0,4eb:1,4ec:0,4ed:1,4ee:0,4ef:1,4f0:0,4f1:1,4f2:0,4f3:1,4f4:0,4f5:1,4f6:0,4f7:1,4f8:0,4f9:1,4fa:0,4fb:1,4fc:0,4fd:1,4fe:0,4ff:1,500:0,501:1,502:0,503:1,504:0,505:1,506:0,507:1,508:0,509:1,50a:0,50b:1,50c:0,50d:1,50e:0,50f:1,510:0,511:1,512:0,513:1,514:0,515:1,516:0,517:1,518:0,519:1,51a:0,51b:1,51c:0,51d:1,51e:0,51f:1,520:0,521:1,522:0,523:1,524:0,525:1,526:0,527:1,528:0,529:1,52a:0,52b:1,52c:0,52d:1,52e:0,52f:1,530:29,531:0,557:29,559:3,55a:17,560:1,589:17,58a:12,58b:29,58d:21,58f:19,590:29,591:5,5be:12,5bf:5,5c0:17,5c1:5,5c3:17,5c4:5,5c6:17,5c7:5,5c8:29,5d0:4,5eb:29,5ef:4,5f3:17,5f5:29,600:26,606:18,609:17,60b:19,60c:17,60e:21,610:5,61b:17,61c:2" ++
  "6,61d:17,620:4,640:3,641:4,64b:5,660:8,66a:17,66e:4,670:5,671:4,6d4:17,6d5:4,6d6:5,6dd:26,6de:21,6df:5,6e5:3,6e7:5,6e9:21,6ea:5,6ee:4,6f0:8,6fa:4,6fd:21,6ff:4,700:17,70e:29,70f:26,710:4,711:5,712:4,730:5,74b:29,74d:4,7a6:5,7b1:4,7b2:29,7c0:8,7ca:4,7eb:5,7f4:3,7f6:21,7f7:17,7fa:3,7fb:29,7fd:5,7fe:19,800:4,816:5,81a:3,81b:5,824:3,825:5,828:3,829:5,82e:29,830:17,83f:29,840:4,859:5,85c:29,85e:17,85f:29,860:4,86b:29,870:4,888:20,889:4,88f:29,890:26,892:29,897:5,8a0:4,8c9:3,8ca:5,8e2:26,8e3:5,903:6,904:4,93a:5,93b:6,93c:5,93d:4,93e:6,941:5,949:6,94d:5,94e:6,950:4,951:5,958:4,962:5,964:17,966:8,970:17,971:3,972:4,981:5,982:6,984:29,985:4,98d:29,98f:4,991:29,993:4,9a9:29,9aa:4,9b1:29,9b2:4,9b3:29,9b6:4,9ba:29,9bc:5,9bd:4,9be:6,9c1:5,9c5:29,9c7:6,9c9:29,9cb:6,9cd:5,9ce:4,9cf:29,9d7:6,9d8:29,9dc:4,9de:29,9df:4,9e2:5,9e4:29,9e6:8,9f0:4,9f2:19,9f4:10,9fa:21,9fb:19,9fc:4,9fd:17,9fe:5,9ff:29,a01:5,a03:6,a04:29,a05:4,a0b:29,a0f:4,a11:29,a13:4,a29:29,a2a:4,a31:29,a32:4,a34:29,a35:4,a37:29,a38:4,a3a:29,a3c:5,a3d:29,a3e:6,a41:5,a43:29,a47:5,a49:29,a4b:5,a4e:29,a51:5,a52:29,a59:4,a5d:29,a5e:4,a5f:29,a66:8,a70:5,a72:4,a75:5,a76:17,a77:29,a81:5,a83:6,a84:29,a85:4,a8e:29,a8f:4,a92:29,a93:4,aa9:29,aaa:4,ab1:29,ab2:4,ab4:29,ab5:4,aba:29,abc:5,abd:4,abe:6,ac1:5,ac6:29,ac7:5,ac9:6,aca:29,acb:6,acd:5,ace:29,ad0:4,ad1:29,ae0:4,ae2:5,ae4:29,ae6:8,af0:17,af1:19,af2:29,af9:4,afa:5,b00:29,b01:5,b02:6,b04:29,b05:4,b0d:29,b0f:4,b11:29,b13:4,b29:29,b2a:4,b31:29,b32:4,b34:29,b35:4,b3a:29,b3c:5,b3d:4,b3e:6,b3f:5,b40:6,b41:5,b45:29,b47:6,b49:29,b4b:6,b4d:5,b4e:29,b55:5,b57:6,b58:29,b5c:4,b5e:29,b5f:4,b62:5,b64:29,b66:8,b70:21,b71:4,b72:10,b78:29,b82:5,b83:4,b84:29,b85:4,b8b:29,b8e:4,b91:29,b92:4,b96:29,b99:4,b9b:29,b9c:4,b9d:29,b9e:4,ba0:29,ba3:4,ba5:29,ba8:4,bab:29,bae:4,bba:29,bbe:6,bc0:5,bc1:6,bc3:29,bc6:6,bc9:29,bca:6,bcd:5,bce:29,bd0:4,bd1:29,bd7:6,bd8:29,be6:8,bf0:10,bf3:21,bf9:19,bfa:21,bfb:29,c00:5,c01:6,c04:5,c05:4,c0d:29,c0e:4,c11:29,c12:4,c29:29,c2a:4,c3a:29,c3c:5,c3d:4,c3e:5,c41:6,c45:29,c46" ++
  ":5,c49:29,c4a:5,c4e:29,c55:5,c57:29,c58:4,c5b:29,c5d:4,c5e:29,c60:4,c62:5,c64:29,c66:8,c70:29,c77:17,c78:10,c7f:21,c80:4,c81:5,c82:6,c84:17,c85:4,c8d:29,c8e:4,c91:29,c92:4,ca9:29,caa:4,cb4:29,cb5:4,cba:29,cbc:5,cbd:4,cbe:6,cbf:5,cc0:6,cc5:29,cc6:5,cc7:6,cc9:29,cca:6,ccc:5,cce:29,cd5:6,cd7:29,cdd:4,cdf:29,ce0:4,ce2:5,ce4:29,ce6:8,cf0:29,cf1:4,cf3:6,cf4:29,d00:5,d02:6,d04:4,d0d:29,d0e:4,d11:29,d12:4,d3b:5,d3d:4,d3e:6,d41:5,d45:29,d46:6,d49:29,d4a:6,d4d:5,d4e:4,d4f:21,d50:29,d54:4,d57:6,d58:10,d5f:4,d62:5,d64:29,d66:8,d70:10,d79:21,d7a:4,d80:29,d81:5,d82:6,d84:29,d85:4,d97:29,d9a:4,db2:29,db3:4,dbc:29,dbd:4,dbe:29,dc0:4,dc7:29,dca:5,dcb:29,dcf:6,dd2:5,dd5:29,dd6:5,dd7:29,dd8:6,de0:29,de6:8,df0:29,df2:6,df4:17,df5:29,e01:4,e31:5,e32:4,e34:5,e3b:29,e3f:19,e40:4,e46:3,e47:5,e4f:17,e50:8,e5a:17,e5c:29,e81:4,e83:29,e84:4,e85:29,e86:4,e8b:29,e8c:4,ea4:29,ea5:4,ea6:29,ea7:4,eb1:5,eb2:4,eb4:5,ebd:4,ebe:29,ec0:4,ec5:29,ec6:3,ec7:29,ec8:5,ecf:29,ed0:8,eda:29,edc:4,ee0:29,f00:4,f01:21,f04:17,f13:21,f14:17,f15:21,f18:5,f1a:21,f20:8,f2a:10,f34:21,f35:5,f36:21,f37:5,f38:21,f39:5,f3a:13,f3b:14,f3c:13,f3d:14,f3e:6,f40:4,f48:29,f49:4,f6d:29,f71:5,f7f:6,f80:5,f85:17,f86:5,f88:4,f8d:5,f98:29,f99:5,fbd:29,fbe:21,fc6:5,fc7:21,fcd:29,fce:21,fd0:17,fd5:21,fd9:17,fdb:29,1000:4,102b:6,102d:5,1031:6,1032:5,1038:6,1039:5,103b:6,103d:5,103f:4,1040:8,104a:17,1050:4,1056:6,1058:5,105a:4,105e:5,1061:4,1062:6,1065:4,1067:6,106e:4,1071:5,1075:4,1082:5,1083:6,1085:5,1087:6,108d:5,108e:4,108f:6,1090:8,109a:6,109d:5,109e:21,10a0:0,10c6:29,10c7:0,10c8:29,10cd:0,10ce:29,10d0:1,10fb:17,10fc:3,10fd:1,1100:4,1249:29,124a:4,124e:29,1250:4,1257:29,1258:4,1259:29,125a:4,125e:29,1260:4,1289:29,128a:4,128e:29,1290:4,12b1:29,12b2:4,12b6:29,12b8:4,12bf:29,12c0:4,12c1:29,12c2:4,12c6:29,12c8:4,12d7:29,12d8:4,1311:29,1312:4,1316:29,1318:4,135b:29,135d:5,1360:17,1369:10,137d:29,1380:4,1390:21,139a:29,13a0:0,13f6:29,13f8:1,13fe:29,1400:12,1401:4,166d:21,166e:17,166f:4,1680:22,1681:4,169b:13,169c:14,169d:29,16a0:4,16eb:17" ++
  ",16ee:9,16f1:4,16f9:29,1700:4,1712:5,1715:6,1716:29,171f:4,1732:5,1734:6,1735:17,1737:29,1740:4,1752:5,1754:29,1760:4,176d:29,176e:4,1771:29,1772:5,1774:29,1780:4,17b4:5,17b6:6,17b7:5,17be:6,17c6:5,17c7:6,17c9:5,17d4:17,17d7:3,17d8:17,17db:19,17dc:4,17dd:5,17de:29,17e0:8,17ea:29,17f0:10,17fa:29,1800:17,1806:12,1807:17,180b:5,180e:26,180f:5,1810:8,181a:29,1820:4,1843:3,1844:4,1879:29,1880:4,1885:5,1887:4,18a9:5,18aa:4,18ab:29,18b0:4,18f6:29,1900:4,191f:29,1920:5,1923:6,1927:5,1929:6,192c:29,1930:6,1932:5,1933:6,1939:5,193c:29,1940:21,1941:29,1944:17,1946:8,1950:4,196e:29,1970:4,1975:29,1980:4,19ac:29,19b0:4,19ca:29,19d0:8,19da:10,19db:29,19de:21,1a00:4,1a17:5,1a19:6,1a1b:5,1a1c:29,1a1e:17,1a20:4,1a55:6,1a56:5,1a57:6,1a58:5,1a5f:29,1a60:5,1a61:6,1a62:5,1a63:6,1a65:5,1a6d:6,1a73:5,1a7d:29,1a7f:5,1a80:8,1a8a:29,1a90:8,1a9a:29,1aa0:17,1aa7:3,1aa8:17,1aae:29,1ab0:5,1abe:7,1abf:5,1acf:29,1b00:5,1b04:6,1b05:4,1b34:5,1b35:6,1b36:5,1b3b:6,1b3c:5,1b3d:6,1b42:5,1b43:6,1b45:4,1b4d:29,1b4e:17,1b50:8,1b5a:17,1b61:21,1b6b:5,1b74:21,1b7d:17,1b80:5,1b82:6,1b83:4,1ba1:6,1ba2:5,1ba6:6,1ba8:5,1baa:6,1bab:5,1bae:4,1bb0:8,1bba:4,1be6:5,1be7:6,1be8:5,1bea:6,1bed:5,1bee:6,1bef:5,1bf2:6,1bf4:29,1bfc:17,1c00:4,1c24:6,1c2c:5,1c34:6,1c36:5,1c38:29,1c3b:17,1c40:8,1c4a:29,1c4d:4,1c50:8,1c5a:4,1c78:3,1c7e:17,1c80:1,1c89:0,1c8a:1,1c8b:29,1c90:0,1cbb:29,1cbd:0,1cc0:17,1cc8:29,1cd0:5,1cd3:17,1cd4:5,1ce1:6,1ce2:5,1ce9:4,1ced:5,1cee:4,1cf4:5,1cf5:4,1cf7:6,1cf8:5,1cfa:4,1cfb:29,1d00:1,1d2c:3,1d6b:1,1d78:3,1d79:1,1d9b:3,1dc0:5,1e00:0,1e01:1,1e02:0,1e03:1,1e04:0,1e05:1,1e06:0,1e07:1,1e08:0,1e09:1,1e0a:0,1e0b:1,1e0c:0,1e0d:1,1e0e:0,1e0f:1,1e10:0,1e11:1,1e12:0,1e13:1,1e14:0,1e15:1,1e16:0,1e17:1,1e18:0,1e19:1,1e1a:0,1e1b:1,1e1c:0,1e1d:1,1e1e:0,1e1f:1,1e20:0,1e21:1,1e22:0,1e23:1,1e24:0,1e25:1,1e26:0,1e27:1,1e28:0,1e29:1,1e2a:0,1e2b:1,1e2c:0,1e2d:1,1e2e:0,1e2f:1,1e30:0,1e31:1,1e32:0,1e33:1,1e34:0,1e35:1,1e36:0,1e37:1,1e38:0,1e39:1,1e3a:0,1e3b:1,1e3c:0,1e3d:1,1e3e:0,1e3f:1,1e40:0,1e41:1,1e42:0,1e43:1,1e44:0,1e4" ++
  "5:1,1e46:0,1e47:1,1e48:0,1e49:1,1e4a:0,1e4b:1,1e4c:0,1e4d:1,1e4e:0,1e4f:1,1e50:0,1e51:1,1e52:0,1e53:1,1e54:0,1e55:1,1e56:0,1e57:1,1e58:0,1e59:1,1e5a:0,1e5b:1,1e5c:0,1e5d:1,1e5e:0,1e5f:1,1e60:0,1e61:1,1e62:0,1e63:1,1e64:0,1e65:1,1e66:0,1e67:1,1e68:0,1e69:1,1e6a:0,1e6b:1,1e6c:0,1e6d:1,1e6e:0,1e6f:1,1e70:0,1e71:1,1e72:0,1e73:1,1e74:0,1e75:1,1e76:0,1e77:1,1e78:0,1e79:1,1e7a:0,1e7b:1,1e7c:0,1e7d:1,1e7e:0,1e7f:1,1e80:0,1e81:1,1e82:0,1e83:1,1e84:0,1e85:1,1e86:0,1e87:1,1e88:0,1e89:1,1e8a:0,1e8b:1,1e8c:0,1e8d:1,1e8e:0,1e8f:1,1e90:0,1e91:1,1e92:0,1e93:1,1e94:0,1e95:1,1e9e:0,1e9f:1,1ea0:0,1ea1:1,1ea2:0,1ea3:1,1ea4:0,1ea5:1,1ea6:0,1ea7:1,1ea8:0,1ea9:1,1eaa:0,1eab:1,1eac:0,1ead:1,1eae:0,1eaf:1,1eb0:0,1eb1:1,1eb2:0,1eb3:1,1eb4:0,1eb5:1,1eb6:0,1eb7:1,1eb8:0,1eb9:1,1eba:0,1ebb:1,1ebc:0,1ebd:1,1ebe:0,1ebf:1,1ec0:0,1ec1:1,1ec2:0,1ec3:1,1ec4:0,1ec5:1,1ec6:0,1ec7:1,1ec8:0,1ec9:1,1eca:0,1ecb:1,1ecc:0,1ecd:1,1ece:0,1ecf:1,1ed0:0,1ed1:1,1ed2:0,1ed3:1,1ed4:0,1ed5:1,1ed6:0,1ed7:1,1ed8:0,1ed9:1,1eda:0,1edb:1,1edc:0,1edd:1,1ede:0,1edf:1,1ee0:0,1ee1:1,1ee2:0,1ee3:1,1ee4:0,1ee5:1,1ee6:0,1ee7:1,1ee8:0,1ee9:1,1eea:0,1eeb:1,1eec:0,1eed:1,1eee:0,1eef:1,1ef0:0,1ef1:1,1ef2:0,1ef3:1,1ef4:0,1ef5:1,1ef6:0,1ef7:1,1ef8:0,1ef9:1,1efa:0,1efb:1,1efc:0,1efd:1,1efe:0,1eff:1,1f08:0,1f10:1,1f16:29,1f18:0,1f1e:29,1f20:1,1f28:0,1f30:1,1f38:0,1f40:1,1f46:29,1f48:0,1f4e:29,1f50:1,1f58:29,1f59:0,1f5a:29,1f5b:0,1f5c:29,1f5d:0,1f5e:29,1f5f:0,1f60:1,1f68:0,1f70:1,1f7e:29,1f80:1,1f88:2,1f90:1,1f98:2,1fa0:1,1fa8:2,1fb0:1,1fb5:29,1fb6:1,1fb8:0,1fbc:2,1fbd:20,1fbe:1,1fbf:20,1fc2:1,1fc5:29,1fc6:1,1fc8:0,1fcc:2,1fcd:20,1fd0:1,1fd4:29,1fd6:1,1fd8:0,1fdc:29,1fdd:20,1fe0:1,1fe8:0,1fed:20,1ff0:29,1ff2:1,1ff5:29,1ff6:1,1ff8:0,1ffc:2,1ffd:20,1fff:29,2000:22,200b:26,2010:12,2016:17,2018:15,2019:16,201a:13,201b:15,201d:16,201e:13,201f:15,2020:17,2028:23,2029:24,202a:26,202f:22,2030:17,2039:15,203a:16,203b:17,203f:11,2041:17,2044:18,2045:13,2046:14,2047:17,2052:18,2053:17,2054:11,2055:17,205f:22,2060:26,2065:29,2066:26,2070:10,2071:3," ++
  "2072:29,2074:10,207a:18,207d:13,207e:14,207f:3,2080:10,208a:18,208d:13,208e:14,208f:29,2090:3,209d:29,20a0:19,20c1:29,20d0:5,20dd:7,20e1:5,20e2:7,20e5:5,20f1:29,2100:21,2102:0,2103:21,2107:0,2108:21,210a:1,210b:0,210e:1,2110:0,2113:1,2114:21,2115:0,2116:21,2118:18,2119:0,211e:21,2124:0,2125:21,2126:0,2127:21,2128:0,2129:21,212a:0,212e:21,212f:1,2130:0,2134:1,2135:4,2139:1,213a:21,213c:1,213e:0,2140:18,2145:0,2146:1,214a:21,214b:18,214c:21,214e:1,214f:21,2150:10,2160:9,2183:0,2184:1,2185:9,2189:10,218a:21,218c:29,2190:18,2195:21,219a:18,219c:21,21a0:18,21a1:21,21a3:18,21a4:21,21a6:18,21a7:21,21ae:18,21af:21,21ce:18,21d0:21,21d2:18,21d3:21,21d4:18,21d5:21,21f4:18,2300:21,2308:13,2309:14,230a:13,230b:14,230c:21,2320:18,2322:21,2329:13,232a:14,232b:21,237c:18,237d:21,239b:18,23b4:21,23dc:18,23e2:21,242a:29,2440:21,244b:29,2460:10,249c:21,24ea:10,2500:21,25b7:18,25b8:21,25c1:18,25c2:21,25f8:18,2600:21,266f:18,2670:21,2768:13,2769:14,276a:13,276b:14,276c:13,276d:14,276e:13,276f:14,2770:13,2771:14,2772:13,2773:14,2774:13,2775:14,2776:10,2794:21,27c0:18,27c5:13,27c6:14,27c7:18,27e6:13,27e7:14,27e8:13,27e9:14,27ea:13,27eb:14,27ec:13,27ed:14,27ee:13,27ef:14,27f0:18,2800:21,2900:18,2983:13,2984:14,2985:13,2986:14,2987:13,2988:14,2989:13,298a:14,298b:13,298c:14,298d:13,298e:14,298f:13,2990:14,2991:13,2992:14,2993:13,2994:14,2995:13,2996:14,2997:13,2998:14,2999:18,29d8:13,29d9:14,29da:13,29db:14,29dc:18,29fc:13,29fd:14,29fe:18,2b00:21,2b30:18,2b45:21,2b47:18,2b4d:21,2b74:29,2b76:21,2b96:29,2b97:21,2c00:0,2c30:1,2c60:0,2c61:1,2c62:0,2c65:1,2c67:0,2c68:1,2c69:0,2c6a:1,2c6b:0,2c6c:1,2c6d:0,2c71:1,2c72:0,2c73:1,2c75:0,2c76:1,2c7c:3,2c7e:0,2c81:1,2c82:0,2c83:1,2c84:0,2c85:1,2c86:0,2c87:1,2c88:0,2c89:1,2c8a:0,2c8b:1,2c8c:0,2c8d:1,2c8e:0,2c8f:1,2c90:0,2c91:1,2c92:0,2c93:1,2c94:0,2c95:1,2c96:0,2c97:1,2c98:0,2c99:1,2c9a:0,2c9b:1,2c9c:0,2c9d:1,2c9e:0,2c9f:1,2ca0:0,2ca1:1,2ca2:0,2ca3:1,2ca4:0,2ca5:1,2ca6:0,2ca7:1,2ca8:0,2ca9:1,2caa:0,2cab:1,2cac:0,2cad:1,2cae:0,2caf:1,2cb0:0,2cb1:1,2cb2:0," ++
  "2cb3:1,2cb4:0,2cb5:1,2cb6:0,2cb7:1,2cb8:0,2cb9:1,2cba:0,2cbb:1,2cbc:0,2cbd:1,2cbe:0,2cbf:1,2cc0:0,2cc1:1,2cc2:0,2cc3:1,2cc4:0,2cc5:1,2cc6:0,2cc7:1,2cc8:0,2cc9:1,2cca:0,2ccb:1,2ccc:0,2ccd:1,2cce:0,2ccf:1,2cd0:0,2cd1:1,2cd2:0,2cd3:1,2cd4:0,2cd5:1,2cd6:0,2cd7:1,2cd8:0,2cd9:1,2cda:0,2cdb:1,2cdc:0,2cdd:1,2cde:0,2cdf:1,2ce0:0,2ce1:1,2ce2:0,2ce3:1,2ce5:21,2ceb:0,2cec:1,2ced:0,2cee:1,2cef:5,2cf2:0,2cf3:1,2cf4:29,2cf9:17,2cfd:10,2cfe:17,2d00:1,2d26:29,2d27:1,2d28:29,2d2d:1,2d2e:29,2d30:4,2d68:29,2d6f:3,2d70:17,2d71:29,2d7f:5,2d80:4,2d97:29,2da0:4,2da7:29,2da8:4,2daf:29,2db0:4,2db7:29,2db8:4,2dbf:29,2dc0:4,2dc7:29,2dc8:4,2dcf:29,2dd0:4,2dd7:29,2dd8:4,2ddf:29,2de0:5,2e00:17,2e02:15,2e03:16,2e04:15,2e05:16,2e06:17,2e09:15,2e0a:16,2e0b:17,2e0c:15,2e0d:16,2e0e:17,2e17:12,2e18:17,2e1a:12,2e1b:17,2e1c:15,2e1d:16,2e1e:17,2e20:15,2e21:16,2e22:13,2e23:14,2e24:13,2e25:14,2e26:13,2e27:14,2e28:13,2e29:14,2e2a:17,2e2f:3,2e30:17,2e3a:12,2e3c:17,2e40:12,2e41:17,2e42:13,2e43:17,2e50:21,2e52:17,2e55:13,2e56:14,2e57:13,2e58:14,2e59:13,2e5a:14,2e5b:13,2e5c:14,2e5d:12,2e5e:29,2e80:21,2e9a:29,2e9b:21,2ef4:29,2f00:21,2fd6:29,2ff0:21,3000:22,3001:17,3004:21,3005:3,3006:4,3007:9,3008:13,3009:14,300a:13,300b:14,300c:13,300d:14,300e:13,300f:14,3010:13,3011:14,3012:21,3014:13,3015:14,3016:13,3017:14,3018:13,3019:14,301a:13,301b:14,301c:12,301d:13,301e:14,3020:21,3021:9,302a:5,302e:6,3030:12,3031:3,3036:21,3038:9,303b:3,303c:4,303d:17,303e:21,3040:29,3041:4,3097:29,3099:5,309b:20,309d:3,309f:4,30a0:12,30a1:4,30fb:17,30fc:3,30ff:4,3100:29,3105:4,3130:29,3131:4,318f:29,3190:21,3192:10,3196:21,31a0:4,31c0:21,31e6:29,31ef:21,31f0:4,3200:21,321f:29,3220:10,322a:21,3248:10,3250:21,3251:10,3260:21,3280:10,328a:21,32b1:10,32c0:21,3400:4,4dc0:21,4e00:4,a015:3,a016:4,a48d:29,a490:21,a4c7:29,a4d0:4,a4f8:3,a4fe:17,a500:4,a60c:3,a60d:17,a610:4,a620:8,a62a:4,a62c:29,a640:0,a641:1,a642:0,a643:1,a644:0,a645:1,a646:0,a647:1,a648:0,a649:1,a64a:0,a64b:1,a64c:0,a64d:1,a64e:0,a64f:1,a650:0,a651:1,a652:0,a653:1,a654:0,a655:1" ++
  ",a656:0,a657:1,a658:0,a659:1,a65a:0,a65b:1,a65c:0,a65d:1,a65e:0,a65f:1,a660:0,a661:1,a662:0,a663:1,a664:0,a665:1,a666:0,a667:1,a668:0,a669:1,a66a:0,a66b:1,a66c:0,a66d:1,a66e:4,a66f:5,a670:7,a673:17,a674:5,a67e:17,a67f:3,a680:0,a681:1,a682:0,a683:1,a684:0,a685:1,a686:0,a687:1,a688:0,a689:1,a68a:0,a68b:1,a68c:0,a68d:1,a68e:0,a68f:1,a690:0,a691:1,a692:0,a693:1,a694:0,a695:1,a696:0,a697:1,a698:0,a699:1,a69a:0,a69b:1,a69c:3,a69e:5,a6a0:4,a6e6:9,a6f0:5,a6f2:17,a6f8:29,a700:20,a717:3,a720:20,a722:0,a723:1,a724:0,a725:1,a726:0,a727:1,a728:0,a729:1,a72a:0,a72b:1,a72c:0,a72d:1,a72e:0,a72f:1,a732:0,a733:1,a734:0,a735:1,a736:0,a737:1,a738:0,a739:1,a73a:0,a73b:1,a73c:0,a73d:1,a73e:0,a73f:1,a740:0,a741:1,a742:0,a743:1,a744:0,a745:1,a746:0,a747:1,a748:0,a749:1,a74a:0,a74b:1,a74c:0,a74d:1,a74e:0,a74f:1,a750:0,a751:1,a752:0,a753:1,a754:0,a755:1,a756:0,a757:1,a758:0,a759:1,a75a:0,a75b:1,a75c:0,a75d:1,a75e:0,a75f:1,a760:0,a761:1,a762:0,a763:1,a764:0,a765:1,a766:0,a767:1,a768:0,a769:1,a76a:0,a76b:1,a76c:0,a76d:1,a76e:0,a76f:1,a770:3,a771:1,a779:0,a77a:1,a77b:0,a77c:1,a77d:0,a77f:1,a780:0,a781:1,a782:0,a783:1,a784:0,a785:1,a786:0,a787:1,a788:3,a789:20,a78b:0,a78c:1,a78d:0,a78e:1,a78f:4,a790:0,a791:1,a792:0,a793:1,a796:0,a797:1,a798:0,a799:1,a79a:0,a79b:1,a79c:0,a79d:1,a79e:0,a79f:1,a7a0:0,a7a1:1,a7a2:0,a7a3:1,a7a4:0,a7a5:1,a7a6:0,a7a7:1,a7a8:0,a7a9:1,a7aa:0,a7af:1,a7b0:0,a7b5:1,a7b6:0,a7b7:1,a7b8:0,a7b9:1,a7ba:0,a7bb:1,a7bc:0,a7bd:1,a7be:0,a7bf:1,a7c0:0,a7c1:1,a7c2:0,a7c3:1,a7c4:0,a7c8:1,a7c9:0,a7ca:1,a7cb:0,a7cd:1,a7ce:29,a7d0:0,a7d1:1,a7d2:29,a7d3:1,a7d4:29,a7d5:1,a7d6:0,a7d7:1,a7d8:0,a7d9:1,a7da:0,a7db:1,a7dc:0,a7dd:29,a7f2:3,a7f5:0,a7f6:1,a7f7:4,a7f8:3,a7fa:1,a7fb:4,a802:5,a803:4,a806:5,a807:4,a80b:5,a80c:4,a823:6,a825:5,a827:6,a828:21,a82c:5,a82d:29,a830:10,a836:21,a838:19,a839:21,a83a:29,a840:4,a874:17,a878:29,a880:6,a882:4,a8b4:6,a8c4:5,a8c6:29,a8ce:17,a8d0:8,a8da:29,a8e0:5,a8f2:4,a8f8:17,a8fb:4,a8fc:17,a8fd:4,a8ff:5,a900:8,a90a:4,a926:5,a92e:17,a930:4,a947:5,a952:6,a954:29,a95f:" ++
  "17,a960:4,a97d:29,a980:5,a983:6,a984:4,a9b3:5,a9b4:6,a9b6:5,a9ba:6,a9bc:5,a9be:6,a9c1:17,a9ce:29,a9cf:3,a9d0:8,a9da:29,a9de:17,a9e0:4,a9e5:5,a9e6:3,a9e7:4,a9f0:8,a9fa:4,a9ff:29,aa00:4,aa29:5,aa2f:6,aa31:5,aa33:6,aa35:5,aa37:29,aa40:4,aa43:5,aa44:4,aa4c:5,aa4d:6,aa4e:29,aa50:8,aa5a:29,aa5c:17,aa60:4,aa70:3,aa71:4,aa77:21,aa7a:4,aa7b:6,aa7c:5,aa7d:6,aa7e:4,aab0:5,aab1:4,aab2:5,aab5:4,aab7:5,aab9:4,aabe:5,aac0:4,aac1:5,aac2:4,aac3:29,aadb:4,aadd:3,aade:17,aae0:4,aaeb:6,aaec:5,aaee:6,aaf0:17,aaf2:4,aaf3:3,aaf5:6,aaf6:5,aaf7:29,ab01:4,ab07:29,ab09:4,ab0f:29,ab11:4,ab17:29,ab20:4,ab27:29,ab28:4,ab2f:29,ab30:1,ab5b:20,ab5c:3,ab60:1,ab69:3,ab6a:20,ab6c:29,ab70:1,abc0:4,abe3:6,abe5:5,abe6:6,abe8:5,abe9:6,abeb:17,abec:6,abed:5,abee:29,abf0:8,abfa:29,ac00:4,d7a4:29,d7b0:4,d7c7:29,d7cb:4,d7fc:29,d800:27,e000:28,f900:4,fa6e:29,fa70:4,fada:29,fb00:1,fb07:29,fb13:1,fb18:29,fb1d:4,fb1e:5,fb1f:4,fb29:18,fb2a:4,fb37:29,fb38:4,fb3d:29,fb3e:4,fb3f:29,fb40:4,fb42:29,fb43:4,fb45:29,fb46:4,fbb2:20,fbc3:29,fbd3:4,fd3e:14,fd3f:13,fd40:21,fd50:4,fd90:29,fd92:4,fdc8:29,fdcf:21,fdd0:29,fdf0:4,fdfc:19,fdfd:21,fe00:5,fe10:17,fe17:13,fe18:14,fe19:17,fe1a:29,fe20:5,fe30:17,fe31:12,fe33:11,fe35:13,fe36:14,fe37:13,fe38:14,fe39:13,fe3a:14,fe3b:13,fe3c:14,fe3d:13,fe3e:14,fe3f:13,fe40:14,fe41:13,fe42:14,fe43:13,fe44:14,fe45:17,fe47:13,fe48:14,fe49:17,fe4d:11,fe50:17,fe53:29,fe54:17,fe58:12,fe59:13,fe5a:14,fe5b:13,fe5c:14,fe5d:13,fe5e:14,fe5f:17,fe62:18,fe63:12,fe64:18,fe67:29,fe68:17,fe69:19,fe6a:17,fe6c:29,fe70:4,fe75:29,fe76:4,fefd:29,feff:26,ff00:29,ff01:17,ff04:19,ff05:17,ff08:13,ff09:14,ff0a:17,ff0b:18,ff0c:17,ff0d:12,ff0e:17,ff10:8,ff1a:17,ff1c:18,ff1f:17,ff21:0,ff3b:13,ff3c:17,ff3d:14,ff3e:20,ff3f:11,ff40:20,ff41:1,ff5b:13,ff5c:18,ff5d:14,ff5e:18,ff5f:13,ff60:14,ff61:17,ff62:13,ff63:14,ff64:17,ff66:4,ff70:3,ff71:4,ff9e:3,ffa0:4,ffbf:29,ffc2:4,ffc8:29,ffca:4,ffd0:29,ffd2:4,ffd8:29,ffda:4,ffdd:29,ffe0:19,ffe2:18,ffe3:20,ffe4:21,ffe5:19,ffe7:29,ffe8:21,ffe9:18,ffed:21,ffef:29,fff9:26,fffc:21,fffe:2" ++
  "9,10000:4,1000c:29,1000d:4,10027:29,10028:4,1003b:29,1003c:4,1003e:29,1003f:4,1004e:29,10050:4,1005e:29,10080:4,100fb:29,10100:17,10103:29,10107:10,10134:29,10137:21,10140:9,10175:10,10179:21,1018a:10,1018c:21,1018f:29,10190:21,1019d:29,101a0:21,101a1:29,101d0:21,101fd:5,101fe:29,10280:4,1029d:29,102a0:4,102d1:29,102e0:5,102e1:10,102fc:29,10300:4,10320:10,10324:29,1032d:4,10341:9,10342:4,1034a:9,1034b:29,10350:4,10376:5,1037b:29,10380:4,1039e:29,1039f:17,103a0:4,103c4:29,103c8:4,103d0:17,103d1:9,103d6:29,10400:0,10428:1,10450:4,1049e:29,104a0:8,104aa:29,104b0:0,104d4:29,104d8:1,104fc:29,10500:4,10528:29,10530:4,10564:29,1056f:17,10570:0,1057b:29,1057c:0,1058b:29,1058c:0,10593:29,10594:0,10596:29,10597:1,105a2:29,105a3:1,105b2:29,105b3:1,105ba:29,105bb:1,105bd:29,105c0:4,105f4:29,10600:4,10737:29,10740:4,10756:29,10760:4,10768:29,10780:3,10786:29,10787:3,107b1:29,107b2:3,107bb:29,10800:4,10806:29,10808:4,10809:29,1080a:4,10836:29,10837:4,10839:29,1083c:4,1083d:29,1083f:4,10856:29,10857:17,10858:10,10860:4,10877:21,10879:10,10880:4,1089f:29,108a7:10,108b0:29,108e0:4,108f3:29,108f4:4,108f6:29,108fb:10,10900:4,10916:10,1091c:29,1091f:17,10920:4,1093a:29,1093f:17,10940:29,10980:4,109b8:29,109bc:10,109be:4,109c0:10,109d0:29,109d2:10,10a00:4,10a01:5,10a04:29,10a05:5,10a07:29,10a0c:5,10a10:4,10a14:29,10a15:4,10a18:29,10a19:4,10a36:29,10a38:5,10a3b:29,10a3f:5,10a40:10,10a49:29,10a50:17,10a59:29,10a60:4,10a7d:10,10a7f:17,10a80:4,10a9d:10,10aa0:29,10ac0:4,10ac8:21,10ac9:4,10ae5:5,10ae7:29,10aeb:10,10af0:17,10af7:29,10b00:4,10b36:29,10b39:17,10b40:4,10b56:29,10b58:10,10b60:4,10b73:29,10b78:10,10b80:4,10b92:29,10b99:17,10b9d:29,10ba9:10,10bb0:29,10c00:4,10c49:29,10c80:0,10cb3:29,10cc0:1,10cf3:29,10cfa:10,10d00:4,10d24:5,10d28:29,10d30:8,10d3a:29,10d40:8,10d4a:4,10d4e:3,10d4f:4,10d50:0,10d66:29,10d69:5,10d6e:12,10d6f:3,10d70:1,10d86:29,10d8e:18,10d90:29,10e60:10,10e7f:29,10e80:4,10eaa:29,10eab:5,10ead:12,10eae:29,10eb0:4,10eb2:29,10ec2:4,10ec5:29,10efc:5,10f00:4,10f1d:10,10f27:4," ++
  "10f28:29,10f30:4,10f46:5,10f51:10,10f55:17,10f5a:29,10f70:4,10f82:5,10f86:17,10f8a:29,10fb0:4,10fc5:10,10fcc:29,10fe0:4,10ff7:29,11000:6,11001:5,11002:6,11003:4,11038:5,11047:17,1104e:29,11052:10,11066:8,11070:5,11071:4,11073:5,11075:4,11076:29,1107f:5,11082:6,11083:4,110b0:6,110b3:5,110b7:6,110b9:5,110bb:17,110bd:26,110be:17,110c2:5,110c3:29,110cd:26,110ce:29,110d0:4,110e9:29,110f0:8,110fa:29,11100:5,11103:4,11127:5,1112c:6,1112d:5,11135:29,11136:8,11140:17,11144:4,11145:6,11147:4,11148:29,11150:4,11173:5,11174:17,11176:4,11177:29,11180:5,11182:6,11183:4,111b3:6,111b6:5,111bf:6,111c1:4,111c5:17,111c9:5,111cd:17,111ce:6,111cf:5,111d0:8,111da:4,111db:17,111dc:4,111dd:17,111e0:29,111e1:10,111f5:29,11200:4,11212:29,11213:4,1122c:6,1122f:5,11232:6,11234:5,11235:6,11236:5,11238:17,1123e:5,1123f:4,11241:5,11242:29,11280:4,11287:29,11288:4,11289:29,1128a:4,1128e:29,1128f:4,1129e:29,1129f:4,112a9:17,112aa:29,112b0:4,112df:5,112e0:6,112e3:5,112eb:29,112f0:8,112fa:29,11300:5,11302:6,11304:29,11305:4,1130d:29,1130f:4,11311:29,11313:4,11329:29,1132a:4,11331:29,11332:4,11334:29,11335:4,1133a:29,1133b:5,1133d:4,1133e:6,11340:5,11341:6,11345:29,11347:6,11349:29,1134b:6,1134e:29,11350:4,11351:29,11357:6,11358:29,1135d:4,11362:6,11364:29,11366:5,1136d:29,11370:5,11375:29,11380:4,1138a:29,1138b:4,1138c:29,1138e:4,1138f:29,11390:4,113b6:29,113b7:4,113b8:6,113bb:5,113c1:29,113c2:6,113c3:29,113c5:6,113c6:29,113c7:6,113cb:29,113cc:6,113ce:5,113cf:6,113d0:5,113d1:4,113d2:5,113d3:4,113d4:17,113d6:29,113d7:17,113d9:29,113e1:5,113e3:29,11400:4,11435:6,11438:5,11440:6,11442:5,11445:6,11446:5,11447:4,1144b:17,11450:8,1145a:17,1145c:29,1145d:17,1145e:5,1145f:4,11462:29,11480:4,114b0:6,114b3:5,114b9:6,114ba:5,114bb:6,114bf:5,114c1:6,114c2:5,114c4:4,114c6:17,114c7:4,114c8:29,114d0:8,114da:29,11580:4,115af:6,115b2:5,115b6:29,115b8:6,115bc:5,115be:6,115bf:5,115c1:17,115d8:4,115dc:5,115de:29,11600:4,11630:6,11633:5,1163b:6,1163d:5,1163e:6,1163f:5,11641:17,11644:4,11645:29,11650:8,1165a:29,11660:17,1" ++
  "166d:29,11680:4,116ab:5,116ac:6,116ad:5,116ae:6,116b0:5,116b6:6,116b7:5,116b8:4,116b9:17,116ba:29,116c0:8,116ca:29,116d0:8,116e4:29,11700:4,1171b:29,1171d:5,1171e:6,1171f:5,11720:6,11722:5,11726:6,11727:5,1172c:29,11730:8,1173a:10,1173c:17,1173f:21,11740:4,11747:29,11800:4,1182c:6,1182f:5,11838:6,11839:5,1183b:17,1183c:29,118a0:0,118c0:1,118e0:8,118ea:10,118f3:29,118ff:4,11907:29,11909:4,1190a:29,1190c:4,11914:29,11915:4,11917:29,11918:4,11930:6,11936:29,11937:6,11939:29,1193b:5,1193d:6,1193e:5,1193f:4,11940:6,11941:4,11942:6,11943:5,11944:17,11947:29,11950:8,1195a:29,119a0:4,119a8:29,119aa:4,119d1:6,119d4:5,119d8:29,119da:5,119dc:6,119e0:5,119e1:4,119e2:17,119e3:4,119e4:6,119e5:29,11a00:4,11a01:5,11a0b:4,11a33:5,11a39:6,11a3a:4,11a3b:5,11a3f:17,11a47:5,11a48:29,11a50:4,11a51:5,11a57:6,11a59:5,11a5c:4,11a8a:5,11a97:6,11a98:5,11a9a:17,11a9d:4,11a9e:17,11aa3:29,11ab0:4,11af9:29,11b00:17,11b0a:29,11bc0:4,11be1:17,11be2:29,11bf0:8,11bfa:29,11c00:4,11c09:29,11c0a:4,11c2f:6,11c30:5,11c37:29,11c38:5,11c3e:6,11c3f:5,11c40:4,11c41:17,11c46:29,11c50:8,11c5a:10,11c6d:29,11c70:17,11c72:4,11c90:29,11c92:5,11ca8:29,11ca9:6,11caa:5,11cb1:6,11cb2:5,11cb4:6,11cb5:5,11cb7:29,11d00:4,11d07:29,11d08:4,11d0a:29,11d0b:4,11d31:5,11d37:29,11d3a:5,11d3b:29,11d3c:5,11d3e:29,11d3f:5,11d46:4,11d47:5,11d48:29,11d50:8,11d5a:29,11d60:4,11d66:29,11d67:4,11d69:29,11d6a:4,11d8a:6,11d8f:29,11d90:5,11d92:29,11d93:6,11d95:5,11d96:6,11d97:5,11d98:4,11d99:29,11da0:8,11daa:29,11ee0:4,11ef3:5,11ef5:6,11ef7:17,11ef9:29,11f00:5,11f02:4,11f03:6,11f04:4,11f11:29,11f12:4,11f34:6,11f36:5,11f3b:29,11f3e:6,11f40:5,11f41:6,11f42:5,11f43:17,11f50:8,11f5a:5,11f5b:29,11fb0:4,11fb1:29,11fc0:10,11fd5:21,11fdd:19,11fe1:21,11ff2:29,11fff:17,12000:4,1239a:29,12400:9,1246f:29,12470:17,12475:29,12480:4,12544:29,12f90:4,12ff1:17,12ff3:29,13000:4,13430:26,13440:5,13441:4,13447:5,13456:29,13460:4,143fb:29,14400:4,14647:29,16100:4,1611e:5,1612a:6,1612d:5,16130:8,1613a:29,16800:4,16a39:29,16a40:4,16a5f:29,16a60:8,16a6a:29,16a6e:1" ++
  "7,16a70:4,16abf:29,16ac0:8,16aca:29,16ad0:4,16aee:29,16af0:5,16af5:17,16af6:29,16b00:4,16b30:5,16b37:17,16b3c:21,16b40:3,16b44:17,16b45:21,16b46:29,16b50:8,16b5a:29,16b5b:10,16b62:29,16b63:4,16b78:29,16b7d:4,16b90:29,16d40:3,16d43:4,16d6b:3,16d6d:17,16d70:8,16d7a:29,16e40:0,16e60:1,16e80:10,16e97:17,16e9b:29,16f00:4,16f4b:29,16f4f:5,16f50:4,16f51:6,16f88:29,16f8f:5,16f93:3,16fa0:29,16fe0:3,16fe2:17,16fe3:3,16fe4:5,16fe5:29,16ff0:6,16ff2:29,17000:4,187f8:29,18800:4,18cd6:29,18cff:4,18d09:29,1aff0:3,1aff4:29,1aff5:3,1affc:29,1affd:3,1afff:29,1b000:4,1b123:29,1b132:4,1b133:29,1b150:4,1b153:29,1b155:4,1b156:29,1b164:4,1b168:29,1b170:4,1b2fc:29,1bc00:4,1bc6b:29,1bc70:4,1bc7d:29,1bc80:4,1bc89:29,1bc90:4,1bc9a:29,1bc9c:21,1bc9d:5,1bc9f:17,1bca0:26,1bca4:29,1cc00:21,1ccf0:8,1ccfa:29,1cd00:21,1ceb4:29,1cf00:5,1cf2e:29,1cf30:5,1cf47:29,1cf50:21,1cfc4:29,1d000:21,1d0f6:29,1d100:21,1d127:29,1d129:21,1d165:6,1d167:5,1d16a:21,1d16d:6,1d173:26,1d17b:5,1d183:21,1d185:5,1d18c:21,1d1aa:5,1d1ae:21,1d1eb:29,1d200:21,1d242:5,1d245:21,1d246:29,1d2c0:10,1d2d4:29,1d2e0:10,1d2f4:29,1d300:21,1d357:29,1d360:10,1d379:29,1d400:0,1d41a:1,1d434:0,1d44e:1,1d455:29,1d456:1,1d468:0,1d482:1,1d49c:0,1d49d:29,1d49e:0,1d4a0:29,1d4a2:0,1d4a3:29,1d4a5:0,1d4a7:29,1d4a9:0,1d4ad:29,1d4ae:0,1d4b6:1,1d4ba:29,1d4bb:1,1d4bc:29,1d4bd:1,1d4c4:29,1d4c5:1,1d4d0:0,1d4ea:1,1d504:0,1d506:29,1d507:0,1d50b:29,1d50d:0,1d515:29,1d516:0,1d51d:29,1d51e:1,1d538:0,1d53a:29,1d53b:0,1d53f:29,1d540:0,1d545:29,1d546:0,1d547:29,1d54a:0,1d551:29,1d552:1,1d56c:0,1d586:1,1d5a0:0,1d5ba:1,1d5d4:0,1d5ee:1,1d608:0,1d622:1,1d63c:0,1d656:1,1d670:0,1d68a:1,1d6a6:29,1d6a8:0,1d6c1:18,1d6c2:1,1d6db:18,1d6dc:1,1d6e2:0,1d6fb:18,1d6fc:1,1d715:18,1d716:1,1d71c:0,1d735:18,1d736:1,1d74f:18,1d750:1,1d756:0,1d76f:18,1d770:1,1d789:18,1d78a:1,1d790:0,1d7a9:18,1d7aa:1,1d7c3:18,1d7c4:1,1d7ca:0,1d7cb:1,1d7cc:29,1d7ce:8,1d800:21,1da00:5,1da37:21,1da3b:5,1da6d:21,1da75:5,1da76:21,1da84:5,1da85:21,1da87:17,1da8c:29,1da9b:5,1daa0:29,1daa1:5,1dab0:29,1df00:1,1df" ++
  "0a:4,1df0b:1,1df1f:29,1df25:1,1df2b:29,1e000:5,1e007:29,1e008:5,1e019:29,1e01b:5,1e022:29,1e023:5,1e025:29,1e026:5,1e02b:29,1e030:3,1e06e:29,1e08f:5,1e090:29,1e100:4,1e12d:29,1e130:5,1e137:3,1e13e:29,1e140:8,1e14a:29,1e14e:4,1e14f:21,1e150:29,1e290:4,1e2ae:5,1e2af:29,1e2c0:4,1e2ec:5,1e2f0:8,1e2fa:29,1e2ff:19,1e300:29,1e4d0:4,1e4eb:3,1e4ec:5,1e4f0:8,1e4fa:29,1e5d0:4,1e5ee:5,1e5f0:4,1e5f1:8,1e5fb:29,1e5ff:17,1e600:29,1e7e0:4,1e7e7:29,1e7e8:4,1e7ec:29,1e7ed:4,1e7ef:29,1e7f0:4,1e7ff:29,1e800:4,1e8c5:29,1e8c7:10,1e8d0:5,1e8d7:29,1e900:0,1e922:1,1e944:5,1e94b:3,1e94c:29,1e950:8,1e95a:29,1e95e:17,1e960:29,1ec71:10,1ecac:21,1ecad:10,1ecb0:19,1ecb1:10,1ecb5:29,1ed01:10,1ed2e:21,1ed2f:10,1ed3e:29,1ee00:4,1ee04:29,1ee05:4,1ee20:29,1ee21:4,1ee23:29,1ee24:4,1ee25:29,1ee27:4,1ee28:29,1ee29:4,1ee33:29,1ee34:4,1ee38:29,1ee39:4,1ee3a:29,1ee3b:4,1ee3c:29,1ee42:4,1ee43:29,1ee47:4,1ee48:29,1ee49:4,1ee4a:29,1ee4b:4,1ee4c:29,1ee4d:4,1ee50:29,1ee51:4,1ee53:29,1ee54:4,1ee55:29,1ee57:4,1ee58:29,1ee59:4,1ee5a:29,1ee5b:4,1ee5c:29,1ee5d:4,1ee5e:29,1ee5f:4,1ee60:29,1ee61:4,1ee63:29,1ee64:4,1ee65:29,1ee67:4,1ee6b:29,1ee6c:4,1ee73:29,1ee74:4,1ee78:29,1ee79:4,1ee7d:29,1ee7e:4,1ee7f:29,1ee80:4,1ee8a:29,1ee8b:4,1ee9c:29,1eea1:4,1eea4:29,1eea5:4,1eeaa:29,1eeab:4,1eebc:29,1eef0:18,1eef2:29,1f000:21,1f02c:29,1f030:21,1f094:29,1f0a0:21,1f0af:29,1f0b1:21,1f0c0:29,1f0c1:21,1f0d0:29,1f0d1:21,1f0f6:29,1f100:10,1f10d:21,1f1ae:29,1f1e6:21,1f203:29,1f210:21,1f23c:29,1f240:21,1f249:29,1f250:21,1f252:29,1f260:21,1f266:29,1f300:21,1f3fb:20,1f400:21,1f6d8:29,1f6dc:21,1f6ed:29,1f6f0:21,1f6fd:29,1f700:21,1f777:29,1f77b:21,1f7da:29,1f7e0:21,1f7ec:29,1f7f0:21,1f7f1:29,1f800:21,1f80c:29,1f810:21,1f848:29,1f850:21,1f85a:29,1f860:21,1f888:29,1f890:21,1f8ae:29,1f8b0:21,1f8bc:29,1f8c0:21,1f8c2:29,1f900:21,1fa54:29,1fa60:21,1fa6e:29,1fa70:21,1fa7d:29,1fa80:21,1fa8a:29,1fa8f:21,1fac7:29,1face:21,1fadd:29,1fadf:21,1faea:29,1faf0:21,1faf9:29,1fb00:21,1fb93:29,1fb94:21,1fbf0:8,1fbfa:29,20000:4,2a6e0:29,2a700:4,2b73a:29,2b740:4," ++
  "2b81e:29,2b820:4,2cea2:29,2ceb0:4,2ebe1:29,2ebf0:4,2ee5e:29,2f800:4,2fa1e:29,30000:4,3134b:29,31350:4,323b0:29,e0001:26,e0002:29,e0020:26,e0080:29,e0100:5,e01f0:29,f0000:28,ffffe:29,100000:28,10fffe:29"

/-- The general category runs, decoded. -/
def categoryRuns : Array (Nat × Nat) := Text.Compact.runs categoryText

end Unicode

end ScriptLib
