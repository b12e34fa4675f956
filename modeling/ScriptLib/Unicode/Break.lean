import ScriptLib.Text.Compact

/-!
# Segmentation properties

The Grapheme_Cluster_Break, Word_Break and Sentence_Break properties of Unicode 16.0,
each a table of runs over the numbered values of its list (`start:value`). The last value
of each list is Other, the value of every code point that the property files do not
list; the files list no code point for it, and so patterns cannot name it.
-/

namespace ScriptLib

namespace Unicode

/-- The values of Grapheme_Cluster_Break, by long name. -/
def graphemeBreakNames : Array String :=
  #["CR", "Control", "Extend", "L", "LF", "LV", "LVT", "Prepend", "Regional_Indicator", "SpacingMark", "T", "V", "ZWJ", "Other"]

/-- Grapheme_Cluster_Break runs; the numbers are positions in `graphemeBreakNames`. -/
def graphemeBreakText : String :=
  "0:1,a:4,b:1,d:0,e:1,20:13,7f:1,a0:13,ad:1,ae:13,300:2,370:13,483:2,48a:13,591:2,5be:13,5bf:2,5c0:13,5c1:2,5c3:13,5c4:2,5c6:13,5c7:2,5c8:13,600:7,606:13,610:2,61b:13,61c:1,61d:13,64b:2,660:13,670:2,671:13,6d6:2,6dd:7,6de:13,6df:2,6e5:13,6e7:2,6e9:13,6ea:2,6ee:13,70f:7,710:13,711:2,712:13,730:2,74b:13,7a6:2,7b1:13,7eb:2,7f4:13,7fd:2,7fe:13,816:2,81a:13,81b:2,824:13,825:2,828:13,829:2,82e:13,859:2,85c:13,890:7,892:13,897:2,8a0:13,8ca:2,8e2:7,8e3:2,903:9,904:13,93a:2,93b:9,93c:2,93d:13,93e:9,941:2,949:9,94d:2,94e:9,950:13,951:2,958:13,962:2,964:13,981:2,982:9,984:13,9bc:2,9bd:13,9be:2,9bf:9,9c1:2,9c5:13,9c7:9,9c9:13,9cb:9,9cd:2,9ce:13,9d7:2,9d8:13,9e2:2,9e4:13,9fe:2,9ff:13,a01:2,a03:9,a04:13,a3c:2,a3d:13,a3e:9,a41:2,a43:13,a47:2,a49:13,a4b:2,a4e:13,a51:2,a52:13,a70:2,a72:13,a75:2,a76:13,a81:2,a83:9,a84:13,abc:2,abd:13,abe:9,ac1:2,ac6:13,ac7:2,ac9:9,aca:13,acb:9,acd:2,ace:13,ae2:2,ae4:13,afa:2,b00:13,b01:2,b02:9,b04:13,b3c:2,b3d:13,b3e:2,b40:9,b41:2,b45:13,b47:9,b49:13,b4b:9,b4d:2,b4e:13,b55:2,b58:13,b62:2,b64:13,b82:2,b83:13,bbe:2,bbf:9,bc0:2,bc1:9,bc3:13,bc6:9,bc9:13,bca:9,bcd:2,bce:13,bd7:2,bd8:13,c00:2,c01:9,c04:2,c05:13,c3c:2,c3d:13,c3e:2,c41:9,c45:13,c46:2,c49:13,c4a:2,c4e:13,c55:2,c57:13,c62:2,c64:13,c81:2,c82:9,c84:13,cbc:2,cbd:13,cbe:9,cbf:2,cc1:9,cc2:2,cc3:9,cc5:13,cc6:2,cc9:13,cca:2,cce:13,cd5:2,cd7:13,ce2:2,ce4:13,cf3:9,cf4:13,d00:2,d02:9,d04:13,d3b:2,d3d:13,d3e:2,d3f:9,d41:2,d45:13,d46:9,d49:13,d4a:9,d4d:2,d4e:7,d4f:13,d57:2,d58:13,d62:2,d64:13,d81:2,d82:9,d84:13,dca:2,dcb:13,dcf:2,dd0:9,dd2:2,dd5:13,dd6:2,dd7:13,dd8:9,ddf:2,de0:13,df2:9,df4:13,e31:2,e32:13,e33:9,e34:2,e3b:13,e47:2,e4f:13,eb1:2,eb2:13,eb3:9,eb4:2,ebd:13,ec8:2,ecf:13,f18:2,f1a:13,f35:2,f36:13,f37:2,f38:13,f39:2,f3a:13,f3e:9,f40:13,f71:2,f7f:9,f80:2,f85:13,f86:2,f88:13,f8d:2,f98:13,f99:2,fbd:13,fc6:2,fc7:13,102d:2,1031:9,1032:2,1038:13,1039:2,103b:9,103d:2,103f:13,1056:9,1058:2,105a:13,105e:2,1061:13,1071:2,1075:13,1082:2,1083:13,1084:9,1085:2,1087:13,108d:2,108e:13,109d:2,109e:13,1100:3,1160:" ++
  "11,11a8:10,1200:13,135d:2,1360:13,1712:2,1716:13,1732:2,1735:13,1752:2,1754:13,1772:2,1774:13,17b4:2,17b6:9,17b7:2,17be:9,17c6:2,17c7:9,17c9:2,17d4:13,17dd:2,17de:13,180b:2,180e:1,180f:2,1810:13,1885:2,1887:13,18a9:2,18aa:13,1920:2,1923:9,1927:2,1929:9,192c:13,1930:9,1932:2,1933:9,1939:2,193c:13,1a17:2,1a19:9,1a1b:2,1a1c:13,1a55:9,1a56:2,1a57:9,1a58:2,1a5f:13,1a60:2,1a61:13,1a62:2,1a63:13,1a65:2,1a6d:9,1a73:2,1a7d:13,1a7f:2,1a80:13,1ab0:2,1acf:13,1b00:2,1b04:9,1b05:13,1b34:2,1b3e:9,1b42:2,1b45:13,1b6b:2,1b74:13,1b80:2,1b82:9,1b83:13,1ba1:9,1ba2:2,1ba6:9,1ba8:2,1bae:13,1be6:2,1be7:9,1be8:2,1bea:9,1bed:2,1bee:9,1bef:2,1bf4:13,1c24:9,1c2c:2,1c34:9,1c36:2,1c38:13,1cd0:2,1cd3:13,1cd4:2,1ce1:9,1ce2:2,1ce9:13,1ced:2,1cee:13,1cf4:2,1cf5:13,1cf7:9,1cf8:2,1cfa:13,1dc0:2,1e00:13,200b:1,200c:2,200d:12,200e:1,2010:13,2028:1,202f:13,2060:1,2070:13,20d0:2,20f1:13,2cef:2,2cf2:13,2d7f:2,2d80:13,2de0:2,2e00:13,302a:2,3030:13,3099:2,309b:13,a66f:2,a673:13,a674:2,a67e:13,a69e:2,a6a0:13,a6f0:2,a6f2:13,a802:2,a803:13,a806:2,a807:13,a80b:2,a80c:13,a823:9,a825:2,a827:9,a828:13,a82c:2,a82d:13,a880:9,a882:13,a8b4:9,a8c4:2,a8c6:13,a8e0:2,a8f2:13,a8ff:2,a900:13,a926:2,a92e:13,a947:2,a952:9,a953:2,a954:13,a960:3,a97d:13,a980:2,a983:9,a984:13,a9b3:2,a9b4:9,a9b6:2,a9ba:9,a9bc:2,a9be:9,a9c0:2,a9c1:13,a9e5:2,a9e6:13,aa29:2,aa2f:9,aa31:2,aa33:9,aa35:2,aa37:13,aa43:2,aa44:13,aa4c:2,aa4d:9,aa4e:13,aa7c:2,aa7d:13,aab0:2,aab1:13,aab2:2,aab5:13,aab7:2,aab9:13,aabe:2,aac0:13,aac1:2,aac2:13,aaeb:9,aaec:2,aaee:9,aaf0:13,aaf5:9,aaf6:2,aaf7:13,abe3:9,abe5:2,abe6:9,abe8:2,abe9:9,abeb:13,abec:9,abed:2,abee:13,ac00:5,ac01:6,ac1c:5,ac1d:6,ac38:5,ac39:6,ac54:5,ac55:6,ac70:5,ac71:6,ac8c:5,ac8d:6,aca8:5,aca9:6,acc4:5,acc5:6,ace0:5,ace1:6,acfc:5,acfd:6,ad18:5,ad19:6,ad34:5,ad35:6,ad50:5,ad51:6,ad6c:5,ad6d:6,ad88:5,ad89:6,ada4:5,ada5:6,adc0:5,adc1:6,addc:5,addd:6,adf8:5,adf9:6,ae14:5,ae15:6,ae30:5,ae31:6,ae4c:5,ae4d:6,ae68:5,ae69:6,ae84:5,ae85:6,aea0:5,aea1:6,aebc:5,aebd:6,aed8:5,aed9:6,aef4:5,aef5:6,af10:5,af11:6,af2" ++
  "c:5,af2d:6,af48:5,af49:6,af64:5,af65:6,af80:5,af81:6,af9c:5,af9d:6,afb8:5,afb9:6,afd4:5,afd5:6,aff0:5,aff1:6,b00c:5,b00d:6,b028:5,b029:6,b044:5,b045:6,b060:5,b061:6,b07c:5,b07d:6,b098:5,b099:6,b0b4:5,b0b5:6,b0d0:5,b0d1:6,b0ec:5,b0ed:6,b108:5,b109:6,b124:5,b125:6,b140:5,b141:6,b15c:5,b15d:6,b178:5,b179:6,b194:5,b195:6,b1b0:5,b1b1:6,b1cc:5,b1cd:6,b1e8:5,b1e9:6,b204:5,b205:6,b220:5,b221:6,b23c:5,b23d:6,b258:5,b259:6,b274:5,b275:6,b290:5,b291:6,b2ac:5,b2ad:6,b2c8:5,b2c9:6,b2e4:5,b2e5:6,b300:5,b301:6,b31c:5,b31d:6,b338:5,b339:6,b354:5,b355:6,b370:5,b371:6,b38c:5,b38d:6,b3a8:5,b3a9:6,b3c4:5,b3c5:6,b3e0:5,b3e1:6,b3fc:5,b3fd:6,b418:5,b419:6,b434:5,b435:6,b450:5,b451:6,b46c:5,b46d:6,b488:5,b489:6,b4a4:5,b4a5:6,b4c0:5,b4c1:6,b4dc:5,b4dd:6,b4f8:5,b4f9:6,b514:5,b515:6,b530:5,b531:6,b54c:5,b54d:6,b568:5,b569:6,b584:5,b585:6,b5a0:5,b5a1:6,b5bc:5,b5bd:6,b5d8:5,b5d9:6,b5f4:5,b5f5:6,b610:5,b611:6,b62c:5,b62d:6,b648:5,b649:6,b664:5,b665:6,b680:5,b681:6,b69c:5,b69d:6,b6b8:5,b6b9:6,b6d4:5,b6d5:6,b6f0:5,b6f1:6,b70c:5,b70d:6,b728:5,b729:6,b744:5,b745:6,b760:5,b761:6,b77c:5,b77d:6,b798:5,b799:6,b7b4:5,b7b5:6,b7d0:5,b7d1:6,b7ec:5,b7ed:6,b808:5,b809:6,b824:5,b825:6,b840:5,b841:6,b85c:5,b85d:6,b878:5,b879:6,b894:5,b895:6,b8b0:5,b8b1:6,b8cc:5,b8cd:6,b8e8:5,b8e9:6,b904:5,b905:6,b920:5,b921:6,b93c:5,b93d:6,b958:5,b959:6,b974:5,b975:6,b990:5,b991:6,b9ac:5,b9ad:6,b9c8:5,b9c9:6,b9e4:5,b9e5:6,ba00:5,ba01:6,ba1c:5,ba1d:6,ba38:5,ba39:6,ba54:5,ba55:6,ba70:5,ba71:6,ba8c:5,ba8d:6,baa8:5,baa9:6,bac4:5,bac5:6,bae0:5,bae1:6,bafc:5,bafd:6,bb18:5,bb19:6,bb34:5,bb35:6,bb50:5,bb51:6,bb6c:5,bb6d:6,bb88:5,bb89:6,bba4:5,bba5:6,bbc0:5,bbc1:6,bbdc:5,bbdd:6,bbf8:5,bbf9:6,bc14:5,bc15:6,bc30:5,bc31:6,bc4c:5,bc4d:6,bc68:5,bc69:6,bc84:5,bc85:6,bca0:5,bca1:6,bcbc:5,bcbd:6,bcd8:5,bcd9:6,bcf4:5,bcf5:6,bd10:5,bd11:6,bd2c:5,bd2d:6,bd48:5,bd49:6,bd64:5,bd65:6,bd80:5,bd81:6,bd9c:5,bd9d:6,bdb8:5,bdb9:6,bdd4:5,bdd5:6,bdf0:5,bdf1:6,be0c:5,be0d:6,be28:5,be29:6,be44:5,be45:6,be60:5,be61:6,be7c:5,be7d:6,be98:5,be99:6,beb4:5,beb5:6,b" ++
  "ed0:5,bed1:6,beec:5,beed:6,bf08:5,bf09:6,bf24:5,bf25:6,bf40:5,bf41:6,bf5c:5,bf5d:6,bf78:5,bf79:6,bf94:5,bf95:6,bfb0:5,bfb1:6,bfcc:5,bfcd:6,bfe8:5,bfe9:6,c004:5,c005:6,c020:5,c021:6,c03c:5,c03d:6,c058:5,c059:6,c074:5,c075:6,c090:5,c091:6,c0ac:5,c0ad:6,c0c8:5,c0c9:6,c0e4:5,c0e5:6,c100:5,c101:6,c11c:5,c11d:6,c138:5,c139:6,c154:5,c155:6,c170:5,c171:6,c18c:5,c18d:6,c1a8:5,c1a9:6,c1c4:5,c1c5:6,c1e0:5,c1e1:6,c1fc:5,c1fd:6,c218:5,c219:6,c234:5,c235:6,c250:5,c251:6,c26c:5,c26d:6,c288:5,c289:6,c2a4:5,c2a5:6,c2c0:5,c2c1:6,c2dc:5,c2dd:6,c2f8:5,c2f9:6,c314:5,c315:6,c330:5,c331:6,c34c:5,c34d:6,c368:5,c369:6,c384:5,c385:6,c3a0:5,c3a1:6,c3bc:5,c3bd:6,c3d8:5,c3d9:6,c3f4:5,c3f5:6,c410:5,c411:6,c42c:5,c42d:6,c448:5,c449:6,c464:5,c465:6,c480:5,c481:6,c49c:5,c49d:6,c4b8:5,c4b9:6,c4d4:5,c4d5:6,c4f0:5,c4f1:6,c50c:5,c50d:6,c528:5,c529:6,c544:5,c545:6,c560:5,c561:6,c57c:5,c57d:6,c598:5,c599:6,c5b4:5,c5b5:6,c5d0:5,c5d1:6,c5ec:5,c5ed:6,c608:5,c609:6,c624:5,c625:6,c640:5,c641:6,c65c:5,c65d:6,c678:5,c679:6,c694:5,c695:6,c6b0:5,c6b1:6,c6cc:5,c6cd:6,c6e8:5,c6e9:6,c704:5,c705:6,c720:5,c721:6,c73c:5,c73d:6,c758:5,c759:6,c774:5,c775:6,c790:5,c791:6,c7ac:5,c7ad:6,c7c8:5,c7c9:6,c7e4:5,c7e5:6,c800:5,c801:6,c81c:5,c81d:6,c838:5,c839:6,c854:5,c855:6,c870:5,c871:6,c88c:5,c88d:6,c8a8:5,c8a9:6,c8c4:5,c8c5:6,c8e0:5,c8e1:6,c8fc:5,c8fd:6,c918:5,c919:6,c934:5,c935:6,c950:5,c951:6,c96c:5,c96d:6,c988:5,c989:6,c9a4:5,c9a5:6,c9c0:5,c9c1:6,c9dc:5,c9dd:6,c9f8:5,c9f9:6,ca14:5,ca15:6,ca30:5,ca31:6,ca4c:5,ca4d:6,ca68:5,ca69:6,ca84:5,ca85:6,caa0:5,caa1:6,cabc:5,cabd:6,cad8:5,cad9:6,caf4:5,caf5:6,cb10:5,cb11:6,cb2c:5,cb2d:6,cb48:5,cb49:6,cb64:5,cb65:6,cb80:5,cb81:6,cb9c:5,cb9d:6,cbb8:5,cbb9:6,cbd4:5,cbd5:6,cbf0:5,cbf1:6,cc0c:5,cc0d:6,cc28:5,cc29:6,cc44:5,cc45:6,cc60:5,cc61:6,cc7c:5,cc7d:6,cc98:5,cc99:6,ccb4:5,ccb5:6,ccd0:5,ccd1:6,ccec:5,cced:6,cd08:5,cd09:6,cd24:5,cd25:6,cd40:5,cd41:6,cd5c:5,cd5d:6,cd78:5,cd79:6,cd94:5,cd95:6,cdb0:5,cdb1:6,cdcc:5,cdcd:6,cde8:5,cde9:6,ce04:5,ce05:6,ce20:5,ce21:6,ce3c:5,ce3d:6,ce58:5,ce59:6" ++
  ",ce74:5,ce75:6,ce90:5,ce91:6,ceac:5,cead:6,cec8:5,cec9:6,cee4:5,cee5:6,cf00:5,cf01:6,cf1c:5,cf1d:6,cf38:5,cf39:6,cf54:5,cf55:6,cf70:5,cf71:6,cf8c:5,cf8d:6,cfa8:5,cfa9:6,cfc4:5,cfc5:6,cfe0:5,cfe1:6,cffc:5,cffd:6,d018:5,d019:6,d034:5,d035:6,d050:5,d051:6,d06c:5,d06d:6,d088:5,d089:6,d0a4:5,d0a5:6,d0c0:5,d0c1:6,d0dc:5,d0dd:6,d0f8:5,d0f9:6,d114:5,d115:6,d130:5,d131:6,d14c:5,d14d:6,d168:5,d169:6,d184:5,d185:6,d1a0:5,d1a1:6,d1bc:5,d1bd:6,d1d8:5,d1d9:6,d1f4:5,d1f5:6,d210:5,d211:6,d22c:5,d22d:6,d248:5,d249:6,d264:5,d265:6,d280:5,d281:6,d29c:5,d29d:6,d2b8:5,d2b9:6,d2d4:5,d2d5:6,d2f0:5,d2f1:6,d30c:5,d30d:6,d328:5,d329:6,d344:5,d345:6,d360:5,d361:6,d37c:5,d37d:6,d398:5,d399:6,d3b4:5,d3b5:6,d3d0:5,d3d1:6,d3ec:5,d3ed:6,d408:5,d409:6,d424:5,d425:6,d440:5,d441:6,d45c:5,d45d:6,d478:5,d479:6,d494:5,d495:6,d4b0:5,d4b1:6,d4cc:5,d4cd:6,d4e8:5,d4e9:6,d504:5,d505:6,d520:5,d521:6,d53c:5,d53d:6,d558:5,d559:6,d574:5,d575:6,d590:5,d591:6,d5ac:5,d5ad:6,d5c8:5,d5c9:6,d5e4:5,d5e5:6,d600:5,d601:6,d61c:5,d61d:6,d638:5,d639:6,d654:5,d655:6,d670:5,d671:6,d68c:5,d68d:6,d6a8:5,d6a9:6,d6c4:5,d6c5:6,d6e0:5,d6e1:6,d6fc:5,d6fd:6,d718:5,d719:6,d734:5,d735:6,d750:5,d751:6,d76c:5,d76d:6,d788:5,d789:6,d7a4:13,d7b0:11,d7c7:13,d7cb:10,d7fc:13,fb1e:2,fb1f:13,fe00:2,fe10:13,fe20:2,fe30:13,feff:1,ff00:13,ff9e:2,ffa0:13,fff0:1,fffc:13,101fd:2,101fe:13,102e0:2,102e1:13,10376:2,1037b:13,10a01:2,10a04:13,10a05:2,10a07:13,10a0c:2,10a10:13,10a38:2,10a3b:13,10a3f:2,10a40:13,10ae5:2,10ae7:13,10d24:2,10d28:13,10d69:2,10d6e:13,10eab:2,10ead:13,10efc:2,10f00:13,10f46:2,10f51:13,10f82:2,10f86:13,11000:9,11001:2,11002:9,11003:13,11038:2,11047:13,11070:2,11071:13,11073:2,11075:13,1107f:2,11082:9,11083:13,110b0:9,110b3:2,110b7:9,110b9:2,110bb:13,110bd:7,110be:13,110c2:2,110c3:13,110cd:7,110ce:13,11100:2,11103:13,11127:2,1112c:9,1112d:2,11135:13,11145:9,11147:13,11173:2,11174:13,11180:2,11182:9,11183:13,111b3:9,111b6:2,111bf:9,111c0:2,111c1:13,111c2:7,111c4:13,111c9:2,111cd:13,111ce:9,111cf:2,111d0:13,1122c:9,1122f:2,11232:9,1123" ++
  "4:2,11238:13,1123e:2,1123f:13,11241:2,11242:13,112df:2,112e0:9,112e3:2,112eb:13,11300:2,11302:9,11304:13,1133b:2,1133d:13,1133e:2,1133f:9,11340:2,11341:9,11345:13,11347:9,11349:13,1134b:9,1134d:2,1134e:13,11357:2,11358:13,11362:9,11364:13,11366:2,1136d:13,11370:2,11375:13,113b8:2,113b9:9,113bb:2,113c1:13,113c2:2,113c3:13,113c5:2,113c6:13,113c7:2,113ca:9,113cb:13,113cc:9,113ce:2,113d1:7,113d2:2,113d3:13,113e1:2,113e3:13,11435:9,11438:2,11440:9,11442:2,11445:9,11446:2,11447:13,1145e:2,1145f:13,114b0:2,114b1:9,114b3:2,114b9:9,114ba:2,114bb:9,114bd:2,114be:9,114bf:2,114c1:9,114c2:2,114c4:13,115af:2,115b0:9,115b2:2,115b6:13,115b8:9,115bc:2,115be:9,115bf:2,115c1:13,115dc:2,115de:13,11630:9,11633:2,1163b:9,1163d:2,1163e:9,1163f:2,11641:13,116ab:2,116ac:9,116ad:2,116ae:9,116b0:2,116b8:13,1171d:2,1171e:9,1171f:2,11720:13,11722:2,11726:9,11727:2,1172c:13,1182c:9,1182f:2,11838:9,11839:2,1183b:13,11930:2,11931:9,11936:13,11937:9,11939:13,1193b:2,1193f:7,11940:9,11941:7,11942:9,11943:2,11944:13,119d1:9,119d4:2,119d8:13,119da:2,119dc:9,119e0:2,119e1:13,119e4:9,119e5:13,11a01:2,11a0b:13,11a33:2,11a39:9,11a3a:7,11a3b:2,11a3f:13,11a47:2,11a48:13,11a51:2,11a57:9,11a59:2,11a5c:13,11a84:7,11a8a:2,11a97:9,11a98:2,11a9a:13,11c2f:9,11c30:2,11c37:13,11c38:2,11c3e:9,11c3f:2,11c40:13,11c92:2,11ca8:13,11ca9:9,11caa:2,11cb1:9,11cb2:2,11cb4:9,11cb5:2,11cb7:13,11d31:2,11d37:13,11d3a:2,11d3b:13,11d3c:2,11d3e:13,11d3f:2,11d46:7,11d47:2,11d48:13,11d8a:9,11d8f:13,11d90:2,11d92:13,11d93:9,11d95:2,11d96:9,11d97:2,11d98:13,11ef3:2,11ef5:9,11ef7:13,11f00:2,11f02:7,11f03:9,11f04:13,11f34:9,11f36:2,11f3b:13,11f3e:9,11f40:2,11f43:13,11f5a:2,11f5b:13,13430:1,13440:2,13441:13,13447:2,13456:13,1611e:2,1612a:9,1612d:2,16130:13,16af0:2,16af5:13,16b30:2,16b37:13,16d63:11,16d64:13,16d67:11,16d6b:13,16f4f:2,16f50:13,16f51:9,16f88:13,16f8f:2,16f93:13,16fe4:2,16fe5:13,16ff0:2,16ff2:13,1bc9d:2,1bc9f:13,1bca0:1,1bca4:13,1cf00:2,1cf2e:13,1cf30:2,1cf47:13,1d165:2,1d16a:13,1d16d:2,1d173:1,1d17b:2,1d183:13,1d185:2,1d18c:1" ++
  "3,1d1aa:2,1d1ae:13,1d242:2,1d245:13,1da00:2,1da37:13,1da3b:2,1da6d:13,1da75:2,1da76:13,1da84:2,1da85:13,1da9b:2,1daa0:13,1daa1:2,1dab0:13,1e000:2,1e007:13,1e008:2,1e019:13,1e01b:2,1e022:13,1e023:2,1e025:13,1e026:2,1e02b:13,1e08f:2,1e090:13,1e130:2,1e137:13,1e2ae:2,1e2af:13,1e2ec:2,1e2f0:13,1e4ec:2,1e4f0:13,1e5ee:2,1e5f0:13,1e8d0:2,1e8d7:13,1e944:2,1e94b:13,1f1e6:8,1f200:13,1f3fb:2,1f400:13,e0000:1,e0020:2,e0080:1,e0100:2,e01f0:1,e1000:13"

/-- The Grapheme_Cluster_Break runs, decoded. -/
def graphemeBreakRuns : Array (Nat × Nat) := Text.Compact.runs graphemeBreakText

/-- The values of Word_Break, by long name. -/
def wordBreakNames : Array String :=
  #["ALetter", "CR", "Double_Quote", "Extend", "ExtendNumLet", "Format", "Hebrew_Letter", "Katakana", "LF", "MidLetter", "MidNum", "MidNumLet", "Newline", "Numeric", "Regional_Indicator", "Single_Quote", "WSegSpace", "ZWJ", "Other"]

/-- Word_Break runs; the numbers are positions in `wordBreakNames`. -/
def wordBreakText : String :=
  "0:18,a:8,b:12,d:1,e:18,20:16,21:18,22:2,23:18,27:15,28:18,2c:10,2d:18,2e:11,2f:18,30:13,3a:9,3b:10,3c:18,41:0,5b:18,5f:4,60:18,61:0,7b:18,85:12,86:18,aa:0,ab:18,ad:5,ae:18,b5:0,b6:18,b7:9,b8:18,ba:0,bb:18,c0:0,d7:18,d8:0,f7:18,f8:0,2d8:18,2de:0,300:3,370:0,375:18,376:0,378:18,37a:0,37e:10,37f:0,380:18,386:0,387:9,388:0,38b:18,38c:0,38d:18,38e:0,3a2:18,3a3:0,3f6:18,3f7:0,482:18,483:3,48a:0,530:18,531:0,557:18,559:0,55d:18,55e:0,55f:9,560:0,589:10,58a:0,58b:18,591:3,5be:18,5bf:3,5c0:18,5c1:3,5c3:18,5c4:3,5c6:18,5c7:3,5c8:18,5d0:6,5eb:18,5ef:6,5f3:0,5f4:9,5f5:18,600:13,606:18,60c:10,60e:18,610:3,61b:18,61c:5,61d:18,620:0,64b:3,660:13,66a:18,66b:13,66c:10,66d:18,66e:0,670:3,671:0,6d4:18,6d5:0,6d6:3,6dd:13,6de:18,6df:3,6e5:0,6e7:3,6e9:18,6ea:3,6ee:0,6f0:13,6fa:0,6fd:18,6ff:0,700:18,70f:0,711:3,712:0,730:3,74b:18,74d:0,7a6:3,7b1:0,7b2:18,7c0:13,7ca:0,7eb:3,7f4:0,7f6:18,7f8:10,7f9:18,7fa:0,7fb:18,7fd:3,7fe:18,800:0,816:3,81a:0,81b:3,824:0,825:3,828:0,829:3,82e:18,840:0,859:3,85c:18,860:0,86b:18,870:0,888:18,889:0,88f:18,890:13,892:18,897:3,8a0:0,8ca:3,8e2:13,8e3:3,904:0,93a:3,93d:0,93e:3,950:0,951:3,958:0,962:3,964:18,966:13,970:18,971:0,981:3,984:18,985:0,98d:18,98f:0,991:18,993:0,9a9:18,9aa:0,9b1:18,9b2:0,9b3:18,9b6:0,9ba:18,9bc:3,9bd:0,9be:3,9c5:18,9c7:3,9c9:18,9cb:3,9ce:0,9cf:18,9d7:3,9d8:18,9dc:0,9de:18,9df:0,9e2:3,9e4:18,9e6:13,9f0:0,9f2:18,9fc:0,9fd:18,9fe:3,9ff:18,a01:3,a04:18,a05:0,a0b:18,a0f:0,a11:18,a13:0,a29:18,a2a:0,a31:18,a32:0,a34:18,a35:0,a37:18,a38:0,a3a:18,a3c:3,a3d:18,a3e:3,a43:18,a47:3,a49:18,a4b:3,a4e:18,a51:3,a52:18,a59:0,a5d:18,a5e:0,a5f:18,a66:13,a70:3,a72:0,a75:3,a76:18,a81:3,a84:18,a85:0,a8e:18,a8f:0,a92:18,a93:0,aa9:18,aaa:0,ab1:18,ab2:0,ab4:18,ab5:0,aba:18,abc:3,abd:0,abe:3,ac6:18,ac7:3,aca:18,acb:3,ace:18,ad0:0,ad1:18,ae0:0,ae2:3,ae4:18,ae6:13,af0:18,af9:0,afa:3,b00:18,b01:3,b04:18,b05:0,b0d:18,b0f:0,b11:18,b13:0,b29:18,b2a:0,b31:18,b32:0,b34:18,b35:0,b3a:18,b3c:3,b3d:0,b3e:3,b45:18,b47:3,b49:18,b4b:3,b4e:18,b55:3,b58:18,b5c:0,b5e:18,b5f:0,b62:" ++
  "3,b64:18,b66:13,b70:18,b71:0,b72:18,b82:3,b83:0,b84:18,b85:0,b8b:18,b8e:0,b91:18,b92:0,b96:18,b99:0,b9b:18,b9c:0,b9d:18,b9e:0,ba0:18,ba3:0,ba5:18,ba8:0,bab:18,bae:0,bba:18,bbe:3,bc3:18,bc6:3,bc9:18,bca:3,bce:18,bd0:0,bd1:18,bd7:3,bd8:18,be6:13,bf0:18,c00:3,c05:0,c0d:18,c0e:0,c11:18,c12:0,c29:18,c2a:0,c3a:18,c3c:3,c3d:0,c3e:3,c45:18,c46:3,c49:18,c4a:3,c4e:18,c55:3,c57:18,c58:0,c5b:18,c5d:0,c5e:18,c60:0,c62:3,c64:18,c66:13,c70:18,c80:0,c81:3,c84:18,c85:0,c8d:18,c8e:0,c91:18,c92:0,ca9:18,caa:0,cb4:18,cb5:0,cba:18,cbc:3,cbd:0,cbe:3,cc5:18,cc6:3,cc9:18,cca:3,cce:18,cd5:3,cd7:18,cdd:0,cdf:18,ce0:0,ce2:3,ce4:18,ce6:13,cf0:18,cf1:0,cf3:3,cf4:18,d00:3,d04:0,d0d:18,d0e:0,d11:18,d12:0,d3b:3,d3d:0,d3e:3,d45:18,d46:3,d49:18,d4a:3,d4e:0,d4f:18,d54:0,d57:3,d58:18,d5f:0,d62:3,d64:18,d66:13,d70:18,d7a:0,d80:18,d81:3,d84:18,d85:0,d97:18,d9a:0,db2:18,db3:0,dbc:18,dbd:0,dbe:18,dc0:0,dc7:18,dca:3,dcb:18,dcf:3,dd5:18,dd6:3,dd7:18,dd8:3,de0:18,de6:13,df0:18,df2:3,df4:18,e31:3,e32:18,e34:3,e3b:18,e47:3,e4f:18,e50:13,e5a:18,eb1:3,eb2:18,eb4:3,ebd:18,ec8:3,ecf:18,ed0:13,eda:18,f00:0,f01:18,f18:3,f1a:18,f20:13,f2a:18,f35:3,f36:18,f37:3,f38:18,f39:3,f3a:18,f3e:3,f40:0,f48:18,f49:0,f6d:18,f71:3,f85:18,f86:3,f88:0,f8d:3,f98:18,f99:3,fbd:18,fc6:3,fc7:18,102b:3,103f:18,1040:13,104a:18,1056:3,105a:18,105e:3,1061:18,1062:3,1065:18,1067:3,106e:18,1071:3,1075:18,1082:3,108e:18,108f:3,1090:13,109a:3,109e:18,10a0:0,10c6:18,10c7:0,10c8:18,10cd:0,10ce:18,10d0:0,10fb:18,10fc:0,1249:18,124a:0,124e:18,1250:0,1257:18,1258:0,1259:18,125a:0,125e:18,1260:0,1289:18,128a:0,128e:18,1290:0,12b1:18,12b2:0,12b6:18,12b8:0,12bf:18,12c0:0,12c1:18,12c2:0,12c6:18,12c8:0,12d7:18,12d8:0,1311:18,1312:0,1316:18,1318:0,135b:18,135d:3,1360:18,1380:0,1390:18,13a0:0,13f6:18,13f8:0,13fe:18,1401:0,166d:18,166f:0,1680:16,1681:0,169b:18,16a0:0,16eb:18,16ee:0,16f9:18,1700:0,1712:3,1716:18,171f:0,1732:3,1735:18,1740:0,1752:3,1754:18,1760:0,176d:18,176e:0,1771:18,1772:3,1774:18,17b4:3,17d4:18,17dd:3,17de:18,17e0:13,17ea:18,180b:3,180e:5," ++
  "180f:3,1810:13,181a:18,1820:0,1879:18,1880:0,1885:3,1887:0,18a9:3,18aa:0,18ab:18,18b0:0,18f6:18,1900:0,191f:18,1920:3,192c:18,1930:3,193c:18,1946:13,1950:18,19d0:13,19db:18,1a00:0,1a17:3,1a1c:18,1a55:3,1a5f:18,1a60:3,1a7d:18,1a7f:3,1a80:13,1a8a:18,1a90:13,1a9a:18,1ab0:3,1acf:18,1b00:3,1b05:0,1b34:3,1b45:0,1b4d:18,1b50:13,1b5a:18,1b6b:3,1b74:18,1b80:3,1b83:0,1ba1:3,1bae:0,1bb0:13,1bba:0,1be6:3,1bf4:18,1c00:0,1c24:3,1c38:18,1c40:13,1c4a:18,1c4d:0,1c50:13,1c5a:0,1c7e:18,1c80:0,1c8b:18,1c90:0,1cbb:18,1cbd:0,1cc0:18,1cd0:3,1cd3:18,1cd4:3,1ce9:0,1ced:3,1cee:0,1cf4:3,1cf5:0,1cf7:3,1cfa:0,1cfb:18,1d00:0,1dc0:3,1e00:0,1f16:18,1f18:0,1f1e:18,1f20:0,1f46:18,1f48:0,1f4e:18,1f50:0,1f58:18,1f59:0,1f5a:18,1f5b:0,1f5c:18,1f5d:0,1f5e:18,1f5f:0,1f7e:18,1f80:0,1fb5:18,1fb6:0,1fbd:18,1fbe:0,1fbf:18,1fc2:0,1fc5:18,1fc6:0,1fcd:18,1fd0:0,1fd4:18,1fd6:0,1fdc:18,1fe0:0,1fed:18,1ff2:0,1ff5:18,1ff6:0,1ffd:18,2000:16,2007:18,2008:16,200b:18,200c:3,200d:17,200e:5,2010:18,2018:11,201a:18,2024:11,2025:18,2027:9,2028:12,202a:5,202f:4,2030:18,203f:4,2041:18,2044:10,2045:18,2054:4,2055:18,205f:16,2060:5,2065:18,2066:5,2070:18,2071:0,2072:18,207f:0,2080:18,2090:0,209d:18,20d0:3,20f1:18,2102:0,2103:18,2107:0,2108:18,210a:0,2114:18,2115:0,2116:18,2119:0,211e:18,2124:0,2125:18,2126:0,2127:18,2128:0,2129:18,212a:0,212e:18,212f:0,213a:18,213c:0,2140:18,2145:0,214a:18,214e:0,214f:18,2160:0,2189:18,24b6:0,24ea:18,2c00:0,2ce5:18,2ceb:0,2cef:3,2cf2:0,2cf4:18,2d00:0,2d26:18,2d27:0,2d28:18,2d2d:0,2d2e:18,2d30:0,2d68:18,2d6f:0,2d70:18,2d7f:3,2d80:0,2d97:18,2da0:0,2da7:18,2da8:0,2daf:18,2db0:0,2db7:18,2db8:0,2dbf:18,2dc0:0,2dc7:18,2dc8:0,2dcf:18,2dd0:0,2dd7:18,2dd8:0,2ddf:18,2de0:3,2e00:18,2e2f:0,2e30:18,3000:16,3001:18,3005:0,3006:18,302a:3,3030:18,3031:7,3036:18,303b:0,303d:18,3099:3,309b:7,309d:18,30a0:7,30fb:18,30fc:7,3100:18,3105:0,3130:18,3131:0,318f:18,31a0:0,31c0:18,31f0:7,3200:18,32d0:7,32ff:18,3300:7,3358:18,a000:0,a48d:18,a4d0:0,a4fe:18,a500:0,a60d:18,a610:0,a620:13,a62a:0,a62c:18,a640:0,a66f:3,a673:18" ++
  ",a674:3,a67e:18,a67f:0,a69e:3,a6a0:0,a6f0:3,a6f2:18,a708:0,a7ce:18,a7d0:0,a7d2:18,a7d3:0,a7d4:18,a7d5:0,a7dd:18,a7f2:0,a802:3,a803:0,a806:3,a807:0,a80b:3,a80c:0,a823:3,a828:18,a82c:3,a82d:18,a840:0,a874:18,a880:3,a882:0,a8b4:3,a8c6:18,a8d0:13,a8da:18,a8e0:3,a8f2:0,a8f8:18,a8fb:0,a8fc:18,a8fd:0,a8ff:3,a900:13,a90a:0,a926:3,a92e:18,a930:0,a947:3,a954:18,a960:0,a97d:18,a980:3,a984:0,a9b3:3,a9c1:18,a9cf:0,a9d0:13,a9da:18,a9e5:3,a9e6:18,a9f0:13,a9fa:18,aa00:0,aa29:3,aa37:18,aa40:0,aa43:3,aa44:0,aa4c:3,aa4e:18,aa50:13,aa5a:18,aa7b:3,aa7e:18,aab0:3,aab1:18,aab2:3,aab5:18,aab7:3,aab9:18,aabe:3,aac0:18,aac1:3,aac2:18,aae0:0,aaeb:3,aaf0:18,aaf2:0,aaf5:3,aaf7:18,ab01:0,ab07:18,ab09:0,ab0f:18,ab11:0,ab17:18,ab20:0,ab27:18,ab28:0,ab2f:18,ab30:0,ab6a:18,ab70:0,abe3:3,abeb:18,abec:3,abee:18,abf0:13,abfa:18,ac00:0,d7a4:18,d7b0:0,d7c7:18,d7cb:0,d7fc:18,fb00:0,fb07:18,fb13:0,fb18:18,fb1d:6,fb1e:3,fb1f:6,fb29:18,fb2a:6,fb37:18,fb38:6,fb3d:18,fb3e:6,fb3f:18,fb40:6,fb42:18,fb43:6,fb45:18,fb46:6,fb50:0,fbb2:18,fbd3:0,fd3e:18,fd50:0,fd90:18,fd92:0,fdc8:18,fdf0:0,fdfc:18,fe00:3,fe10:18,fe13:9,fe14:18,fe20:3,fe30:18,fe33:4,fe35:18,fe4d:4,fe50:10,fe51:18,fe52:11,fe53:18,fe54:10,fe55:9,fe56:18,fe70:0,fe75:18,fe76:0,fefd:18,feff:5,ff00:18,ff07:11,ff08:18,ff0c:10,ff0d:18,ff0e:11,ff0f:18,ff10:13,ff1a:9,ff1b:10,ff1c:18,ff21:0,ff3b:18,ff3f:4,ff40:18,ff41:0,ff5b:18,ff66:7,ff9e:3,ffa0:0,ffbf:18,ffc2:0,ffc8:18,ffca:0,ffd0:18,ffd2:0,ffd8:18,ffda:0,ffdd:18,fff9:5,fffc:18,10000:0,1000c:18,1000d:0,10027:18,10028:0,1003b:18,1003c:0,1003e:18,1003f:0,1004e:18,10050:0,1005e:18,10080:0,100fb:18,10140:0,10175:18,101fd:3,101fe:18,10280:0,1029d:18,102a0:0,102d1:18,102e0:3,102e1:18,10300:0,10320:18,1032d:0,1034b:18,10350:0,10376:3,1037b:18,10380:0,1039e:18,103a0:0,103c4:18,103c8:0,103d0:18,103d1:0,103d6:18,10400:0,1049e:18,104a0:13,104aa:18,104b0:0,104d4:18,104d8:0,104fc:18,10500:0,10528:18,10530:0,10564:18,10570:0,1057b:18,1057c:0,1058b:18,1058c:0,10593:18,10594:0,10596:18,10597:0,105a2:18,105a3:0,105b2:18,105b3" ++
  ":0,105ba:18,105bb:0,105bd:18,105c0:0,105f4:18,10600:0,10737:18,10740:0,10756:18,10760:0,10768:18,10780:0,10786:18,10787:0,107b1:18,107b2:0,107bb:18,10800:0,10806:18,10808:0,10809:18,1080a:0,10836:18,10837:0,10839:18,1083c:0,1083d:18,1083f:0,10856:18,10860:0,10877:18,10880:0,1089f:18,108e0:0,108f3:18,108f4:0,108f6:18,10900:0,10916:18,10920:0,1093a:18,10980:0,109b8:18,109be:0,109c0:18,10a00:0,10a01:3,10a04:18,10a05:3,10a07:18,10a0c:3,10a10:0,10a14:18,10a15:0,10a18:18,10a19:0,10a36:18,10a38:3,10a3b:18,10a3f:3,10a40:18,10a60:0,10a7d:18,10a80:0,10a9d:18,10ac0:0,10ac8:18,10ac9:0,10ae5:3,10ae7:18,10b00:0,10b36:18,10b40:0,10b56:18,10b60:0,10b73:18,10b80:0,10b92:18,10c00:0,10c49:18,10c80:0,10cb3:18,10cc0:0,10cf3:18,10d00:0,10d24:3,10d28:18,10d30:13,10d3a:18,10d40:13,10d4a:0,10d66:18,10d69:3,10d6e:18,10d6f:0,10d86:18,10e80:0,10eaa:18,10eab:3,10ead:18,10eb0:0,10eb2:18,10ec2:0,10ec5:18,10efc:3,10f00:0,10f1d:18,10f27:0,10f28:18,10f30:0,10f46:3,10f51:18,10f70:0,10f82:3,10f86:18,10fb0:0,10fc5:18,10fe0:0,10ff7:18,11000:3,11003:0,11038:3,11047:18,11066:13,11070:3,11071:0,11073:3,11075:0,11076:18,1107f:3,11083:0,110b0:3,110bb:18,110bd:13,110be:18,110c2:3,110c3:18,110cd:13,110ce:18,110d0:0,110e9:18,110f0:13,110fa:18,11100:3,11103:0,11127:3,11135:18,11136:13,11140:18,11144:0,11145:3,11147:0,11148:18,11150:0,11173:3,11174:18,11176:0,11177:18,11180:3,11183:0,111b3:3,111c1:0,111c5:18,111c9:3,111cd:18,111ce:3,111d0:13,111da:0,111db:18,111dc:0,111dd:18,11200:0,11212:18,11213:0,1122c:3,11238:18,1123e:3,1123f:0,11241:3,11242:18,11280:0,11287:18,11288:0,11289:18,1128a:0,1128e:18,1128f:0,1129e:18,1129f:0,112a9:18,112b0:0,112df:3,112eb:18,112f0:13,112fa:18,11300:3,11304:18,11305:0,1130d:18,1130f:0,11311:18,11313:0,11329:18,1132a:0,11331:18,11332:0,11334:18,11335:0,1133a:18,1133b:3,1133d:0,1133e:3,11345:18,11347:3,11349:18,1134b:3,1134e:18,11350:0,11351:18,11357:3,11358:18,1135d:0,11362:3,11364:18,11366:3,1136d:18,11370:3,11375:18,11380:0,1138a:18,1138b:0,1138c:18,1138e:0,1138f:18,11390:0,113b6:1" ++
  "8,113b7:0,113b8:3,113c1:18,113c2:3,113c3:18,113c5:3,113c6:18,113c7:3,113cb:18,113cc:3,113d1:0,113d2:3,113d3:0,113d4:18,113e1:3,113e3:18,11400:0,11435:3,11447:0,1144b:18,11450:13,1145a:18,1145e:3,1145f:0,11462:18,11480:0,114b0:3,114c4:0,114c6:18,114c7:0,114c8:18,114d0:13,114da:18,11580:0,115af:3,115b6:18,115b8:3,115c1:18,115d8:0,115dc:3,115de:18,11600:0,11630:3,11641:18,11644:0,11645:18,11650:13,1165a:18,11680:0,116ab:3,116b8:0,116b9:18,116c0:13,116ca:18,116d0:13,116e4:18,1171d:3,1172c:18,11730:13,1173a:18,11800:0,1182c:3,1183b:18,118a0:0,118e0:13,118ea:18,118ff:0,11907:18,11909:0,1190a:18,1190c:0,11914:18,11915:0,11917:18,11918:0,11930:3,11936:18,11937:3,11939:18,1193b:3,1193f:0,11940:3,11941:0,11942:3,11944:18,11950:13,1195a:18,119a0:0,119a8:18,119aa:0,119d1:3,119d8:18,119da:3,119e1:0,119e2:18,119e3:0,119e4:3,119e5:18,11a00:0,11a01:3,11a0b:0,11a33:3,11a3a:0,11a3b:3,11a3f:18,11a47:3,11a48:18,11a50:0,11a51:3,11a5c:0,11a8a:3,11a9a:18,11a9d:0,11a9e:18,11ab0:0,11af9:18,11bc0:0,11be1:18,11bf0:13,11bfa:18,11c00:0,11c09:18,11c0a:0,11c2f:3,11c37:18,11c38:3,11c40:0,11c41:18,11c50:13,11c5a:18,11c72:0,11c90:18,11c92:3,11ca8:18,11ca9:3,11cb7:18,11d00:0,11d07:18,11d08:0,11d0a:18,11d0b:0,11d31:3,11d37:18,11d3a:3,11d3b:18,11d3c:3,11d3e:18,11d3f:3,11d46:0,11d47:3,11d48:18,11d50:13,11d5a:18,11d60:0,11d66:18,11d67:0,11d69:18,11d6a:0,11d8a:3,11d8f:18,11d90:3,11d92:18,11d93:3,11d98:0,11d99:18,11da0:13,11daa:18,11ee0:0,11ef3:3,11ef7:18,11f00:3,11f02:0,11f03:3,11f04:0,11f11:18,11f12:0,11f34:3,11f3b:18,11f3e:3,11f43:18,11f50:13,11f5a:3,11f5b:18,11fb0:0,11fb1:18,12000:0,1239a:18,12400:0,1246f:18,12480:0,12544:18,12f90:0,12ff1:18,13000:0,13430:5,13440:3,13441:0,13447:3,13456:18,13460:0,143fb:18,14400:0,14647:18,16100:0,1611e:3,16130:13,1613a:18,16800:0,16a39:18,16a40:0,16a5f:18,16a60:13,16a6a:18,16a70:0,16abf:18,16ac0:13,16aca:18,16ad0:0,16aee:18,16af0:3,16af5:18,16b00:0,16b30:3,16b37:18,16b40:0,16b44:18,16b50:13,16b5a:18,16b63:0,16b78:18,16b7d:0,16b90:18,16d40:0,16d6d:18,16d70:13,16d7a:18," ++
  "16e40:0,16e80:18,16f00:0,16f4b:18,16f4f:3,16f50:0,16f51:3,16f88:18,16f8f:3,16f93:0,16fa0:18,16fe0:0,16fe2:18,16fe3:0,16fe4:3,16fe5:18,16ff0:3,16ff2:18,1aff0:7,1aff4:18,1aff5:7,1affc:18,1affd:7,1afff:18,1b000:7,1b001:18,1b120:7,1b123:18,1b155:7,1b156:18,1b164:7,1b168:18,1bc00:0,1bc6b:18,1bc70:0,1bc7d:18,1bc80:0,1bc89:18,1bc90:0,1bc9a:18,1bc9d:3,1bc9f:18,1bca0:5,1bca4:18,1ccf0:13,1ccfa:18,1cf00:3,1cf2e:18,1cf30:3,1cf47:18,1d165:3,1d16a:18,1d16d:3,1d173:5,1d17b:3,1d183:18,1d185:3,1d18c:18,1d1aa:3,1d1ae:18,1d242:3,1d245:18,1d400:0,1d455:18,1d456:0,1d49d:18,1d49e:0,1d4a0:18,1d4a2:0,1d4a3:18,1d4a5:0,1d4a7:18,1d4a9:0,1d4ad:18,1d4ae:0,1d4ba:18,1d4bb:0,1d4bc:18,1d4bd:0,1d4c4:18,1d4c5:0,1d506:18,1d507:0,1d50b:18,1d50d:0,1d515:18,1d516:0,1d51d:18,1d51e:0,1d53a:18,1d53b:0,1d53f:18,1d540:0,1d545:18,1d546:0,1d547:18,1d54a:0,1d551:18,1d552:0,1d6a6:18,1d6a8:0,1d6c1:18,1d6c2:0,1d6db:18,1d6dc:0,1d6fb:18,1d6fc:0,1d715:18,1d716:0,1d735:18,1d736:0,1d74f:18,1d750:0,1d76f:18,1d770:0,1d789:18,1d78a:0,1d7a9:18,1d7aa:0,1d7c3:18,1d7c4:0,1d7cc:18,1d7ce:13,1d800:18,1da00:3,1da37:18,1da3b:3,1da6d:18,1da75:3,1da76:18,1da84:3,1da85:18,1da9b:3,1daa0:18,1daa1:3,1dab0:18,1df00:0,1df1f:18,1df25:0,1df2b:18,1e000:3,1e007:18,1e008:3,1e019:18,1e01b:3,1e022:18,1e023:3,1e025:18,1e026:3,1e02b:18,1e030:0,1e06e:18,1e08f:3,1e090:18,1e100:0,1e12d:18,1e130:3,1e137:0,1e13e:18,1e140:13,1e14a:18,1e14e:0,1e14f:18,1e290:0,1e2ae:3,1e2af:18,1e2c0:0,1e2ec:3,1e2f0:13,1e2fa:18,1e4d0:0,1e4ec:3,1e4f0:13,1e4fa:18,1e5d0:0,1e5ee:3,1e5f0:0,1e5f1:13,1e5fb:18,1e7e0:0,1e7e7:18,1e7e8:0,1e7ec:18,1e7ed:0,1e7ef:18,1e7f0:0,1e7ff:18,1e800:0,1e8c5:18,1e8d0:3,1e8d7:18,1e900:0,1e944:3,1e94b:0,1e94c:18,1e950:13,1e95a:18,1ee00:0,1ee04:18,1ee05:0,1ee20:18,1ee21:0,1ee23:18,1ee24:0,1ee25:18,1ee27:0,1ee28:18,1ee29:0,1ee33:18,1ee34:0,1ee38:18,1ee39:0,1ee3a:18,1ee3b:0,1ee3c:18,1ee42:0,1ee43:18,1ee47:0,1ee48:18,1ee49:0,1ee4a:18,1ee4b:0,1ee4c:18,1ee4d:0,1ee50:18,1ee51:0,1ee53:18,1ee54:0,1ee55:18,1ee57:0,1ee58:18,1ee59:0,1ee5a:18,1ee5b:0,1ee5c:18,1ee5" ++
  "d:0,1ee5e:18,1ee5f:0,1ee60:18,1ee61:0,1ee63:18,1ee64:0,1ee65:18,1ee67:0,1ee6b:18,1ee6c:0,1ee73:18,1ee74:0,1ee78:18,1ee79:0,1ee7d:18,1ee7e:0,1ee7f:18,1ee80:0,1ee8a:18,1ee8b:0,1ee9c:18,1eea1:0,1eea4:18,1eea5:0,1eeaa:18,1eeab:0,1eebc:18,1f130:0,1f14a:18,1f150:0,1f16a:18,1f170:0,1f18a:18,1f1e6:14,1f200:18,1f3fb:3,1f400:18,1fbf0:13,1fbfa:18,e0001:5,e0002:18,e0020:3,e0080:18,e0100:3,e01f0:18"

/-- The Word_Break runs, decoded. -/
def wordBreakRuns : Array (Nat × Nat) := Text.Compact.runs wordBreakText

/-- The values of Sentence_Break, by long name. -/
def sentenceBreakNames : Array String :=
  #["ATerm", "CR", "Close", "Extend", "Format", "LF", "Lower", "Numeric", "OLetter", "SContinue", "STerm", "Sep", "Sp", "Upper", "Other"]

/-- Sentence_Break runs; the numbers are positions in `sentenceBreakNames`. -/
def sentenceBreakText : String :=
  "0:14,9:12,a:5,b:12,d:1,e:14,20:12,21:10,22:2,23:14,27:2,2a:14,2c:9,2e:0,2f:14,30:7,3a:9,3c:14,3f:10,40:14,41:13,5b:2,5c:14,5d:2,5e:14,61:6,7b:2,7c:14,7d:2,7e:14,85:11,86:14,a0:12,a1:14,aa:6,ab:2,ac:14,ad:4,ae:14,b5:6,b6:14,ba:6,bb:2,bc:14,c0:13,d7:14,d8:13,df:6,f7:14,f8:6,100:13,101:6,102:13,103:6,104:13,105:6,106:13,107:6,108:13,109:6,10a:13,10b:6,10c:13,10d:6,10e:13,10f:6,110:13,111:6,112:13,113:6,114:13,115:6,116:13,117:6,118:13,119:6,11a:13,11b:6,11c:13,11d:6,11e:13,11f:6,120:13,121:6,122:13,123:6,124:13,125:6,126:13,127:6,128:13,129:6,12a:13,12b:6,12c:13,12d:6,12e:13,12f:6,130:13,131:6,132:13,133:6,134:13,135:6,136:13,137:6,139:13,13a:6,13b:13,13c:6,13d:13,13e:6,13f:13,140:6,141:13,142:6,143:13,144:6,145:13,146:6,147:13,148:6,14a:13,14b:6,14c:13,14d:6,14e:13,14f:6,150:13,151:6,152:13,153:6,154:13,155:6,156:13,157:6,158:13,159:6,15a:13,15b:6,15c:13,15d:6,15e:13,15f:6,160:13,161:6,162:13,163:6,164:13,165:6,166:13,167:6,168:13,169:6,16a:13,16b:6,16c:13,16d:6,16e:13,16f:6,170:13,171:6,172:13,173:6,174:13,175:6,176:13,177:6,178:13,17a:6,17b:13,17c:6,17d:13,17e:6,181:13,183:6,184:13,185:6,186:13,188:6,189:13,18c:6,18e:13,192:6,193:13,195:6,196:13,199:6,19c:13,19e:6,19f:13,1a1:6,1a2:13,1a3:6,1a4:13,1a5:6,1a6:13,1a8:6,1a9:13,1aa:6,1ac:13,1ad:6,1ae:13,1b0:6,1b1:13,1b4:6,1b5:13,1b6:6,1b7:13,1b9:6,1bb:8,1bc:13,1bd:6,1c0:8,1c4:13,1c6:6,1c7:13,1c9:6,1ca:13,1cc:6,1cd:13,1ce:6,1cf:13,1d0:6,1d1:13,1d2:6,1d3:13,1d4:6,1d5:13,1d6:6,1d7:13,1d8:6,1d9:13,1da:6,1db:13,1dc:6,1de:13,1df:6,1e0:13,1e1:6,1e2:13,1e3:6,1e4:13,1e5:6,1e6:13,1e7:6,1e8:13,1e9:6,1ea:13,1eb:6,1ec:13,1ed:6,1ee:13,1ef:6,1f1:13,1f3:6,1f4:13,1f5:6,1f6:13,1f9:6,1fa:13,1fb:6,1fc:13,1fd:6,1fe:13,1ff:6,200:13,201:6,202:13,203:6,204:13,205:6,206:13,207:6,208:13,209:6,20a:13,20b:6,20c:13,20d:6,20e:13,20f:6,210:13,211:6,212:13,213:6,214:13,215:6,216:13,217:6,218:13,219:6,21a:13,21b:6,21c:13,21d:6,21e:13,21f:6,220:13,221:6,222:13,223:6,224:13,225:6,226:13,227:6,228:13,229:6,22a:13,22b:6,22c:13,22d:6,22e:13,22f:6,230:13,231:6" ++
  ",232:13,233:6,23a:13,23c:6,23d:13,23f:6,241:13,242:6,243:13,247:6,248:13,249:6,24a:13,24b:6,24c:13,24d:6,24e:13,24f:6,294:8,295:6,2b9:8,2c0:6,2c2:14,2c6:8,2d2:14,2e0:6,2e5:14,2ec:8,2ed:14,2ee:8,2ef:14,300:3,370:13,371:6,372:13,373:6,374:8,375:14,376:13,377:6,378:14,37a:6,37e:9,37f:13,380:14,386:13,387:14,388:13,38b:14,38c:13,38d:14,38e:13,390:6,391:13,3a2:14,3a3:13,3ac:6,3cf:13,3d0:6,3d2:13,3d5:6,3d8:13,3d9:6,3da:13,3db:6,3dc:13,3dd:6,3de:13,3df:6,3e0:13,3e1:6,3e2:13,3e3:6,3e4:13,3e5:6,3e6:13,3e7:6,3e8:13,3e9:6,3ea:13,3eb:6,3ec:13,3ed:6,3ee:13,3ef:6,3f4:13,3f5:6,3f6:14,3f7:13,3f8:6,3f9:13,3fb:6,3fd:13,430:6,460:13,461:6,462:13,463:6,464:13,465:6,466:13,467:6,468:13,469:6,46a:13,46b:6,46c:13,46d:6,46e:13,46f:6,470:13,471:6,472:13,473:6,474:13,475:6,476:13,477:6,478:13,479:6,47a:13,47b:6,47c:13,47d:6,47e:13,47f:6,480:13,481:6,482:14,483:3,48a:13,48b:6,48c:13,48d:6,48e:13,48f:6,490:13,491:6,492:13,493:6,494:13,495:6,496:13,497:6,498:13,499:6,49a:13,49b:6,49c:13,49d:6,49e:13,49f:6,4a0:13,4a1:6,4a2:13,4a3:6,4a4:13,4a5:6,4a6:13,4a7:6,4a8:13,4a9:6,4aa:13,4ab:6,4ac:13,4ad:6,4ae:13,4af:6,4b0:13,4b1:6,4b2:13,4b3:6,4b4:13,4b5:6,4b6:13,4b7:6,4b8:13,4b9:6,4ba:13,4bb:6,4bc:13,4bd:6,4be:13,4bf:6,4c0:13,4c2:6,4c3:13,4c4:6,4c5:13,4c6:6,4c7:13,4c8:6,4c9:13,4ca:6,4cb:13,4cc:6,4cd:13,4ce:6,4d0:13,4d1:6,4d2:13,4d3:6,4d4:13,4d5:6,4d6:13,4d7:6,4d8:13,4d9:6,4da:13,4db:6,4dc:13,4dd:6,4de:13,4df:6,4e0:13,4e1:6,4e2:13,4e3:6,4e4:13,4e5:6,4e6:13,4e7:6,4e8:13,4e9:6,4ea:13,4eb:6,4ec:13,4ed:6,4ee:13,4ef:6,4f0:13,4f1:6,4f2:13,4f3:6,4f4:13,4f5:6,4f6:13,4f7:6,4f8:13,4f9:6,4fa:13,4fb:6,4fc:13,4fd:6,4fe:13,4ff:6,500:13,501:6,502:13,503:6,504:13,505:6,506:13,507:6,508:13,509:6,50a:13,50b:6,50c:13,50d:6,50e:13,50f:6,510:13,511:6,512:13,513:6,514:13,515:6,516:13,517:6,518:13,519:6,51a:13,51b:6,51c:13,51d:6,51e:13,51f:6,520:13,521:6,522:13,523:6,524:13,525:6,526:13,527:6,528:13,529:6,52a:13,52b:6,52c:13,52d:6,52e:13,52f:6,530:14,531:13,557:14,559:8,55a:14,55d:9,55e:14,560:6,589:10,58a:14,591:3,5be:14,5bf:3" ++
  ",5c0:14,5c1:3,5c3:14,5c4:3,5c6:14,5c7:3,5c8:14,5d0:8,5eb:14,5ef:8,5f4:14,600:7,606:14,60c:9,60e:14,610:3,61b:14,61c:4,61d:10,620:8,64b:3,660:7,66a:14,66b:7,66d:14,66e:8,670:3,671:8,6d4:10,6d5:8,6d6:3,6dd:7,6de:14,6df:3,6e5:8,6e7:3,6e9:14,6ea:3,6ee:8,6f0:7,6fa:8,6fd:14,6ff:8,700:10,703:14,70f:4,710:8,711:3,712:8,730:3,74b:14,74d:8,7a6:3,7b1:8,7b2:14,7c0:7,7ca:8,7eb:3,7f4:8,7f6:14,7f8:9,7f9:10,7fa:8,7fb:14,7fd:3,7fe:14,800:8,816:3,81a:8,81b:3,824:8,825:3,828:8,829:3,82e:14,837:10,838:14,839:10,83a:14,83d:10,83f:14,840:8,859:3,85c:14,860:8,86b:14,870:8,888:14,889:8,88f:14,890:7,892:14,897:3,8a0:8,8ca:3,8e2:7,8e3:3,904:8,93a:3,93d:8,93e:3,950:8,951:3,958:8,962:3,964:10,966:7,970:14,971:8,981:3,984:14,985:8,98d:14,98f:8,991:14,993:8,9a9:14,9aa:8,9b1:14,9b2:8,9b3:14,9b6:8,9ba:14,9bc:3,9bd:8,9be:3,9c5:14,9c7:3,9c9:14,9cb:3,9ce:8,9cf:14,9d7:3,9d8:14,9dc:8,9de:14,9df:8,9e2:3,9e4:14,9e6:7,9f0:8,9f2:14,9fc:8,9fd:14,9fe:3,9ff:14,a01:3,a04:14,a05:8,a0b:14,a0f:8,a11:14,a13:8,a29:14,a2a:8,a31:14,a32:8,a34:14,a35:8,a37:14,a38:8,a3a:14,a3c:3,a3d:14,a3e:3,a43:14,a47:3,a49:14,a4b:3,a4e:14,a51:3,a52:14,a59:8,a5d:14,a5e:8,a5f:14,a66:7,a70:3,a72:8,a75:3,a76:14,a81:3,a84:14,a85:8,a8e:14,a8f:8,a92:14,a93:8,aa9:14,aaa:8,ab1:14,ab2:8,ab4:14,ab5:8,aba:14,abc:3,abd:8,abe:3,ac6:14,ac7:3,aca:14,acb:3,ace:14,ad0:8,ad1:14,ae0:8,ae2:3,ae4:14,ae6:7,af0:14,af9:8,afa:3,b00:14,b01:3,b04:14,b05:8,b0d:14,b0f:8,b11:14,b13:8,b29:14,b2a:8,b31:14,b32:8,b34:14,b35:8,b3a:14,b3c:3,b3d:8,b3e:3,b45:14,b47:3,b49:14,b4b:3,b4e:14,b55:3,b58:14,b5c:8,b5e:14,b5f:8,b62:3,b64:14,b66:7,b70:14,b71:8,b72:14,b82:3,b83:8,b84:14,b85:8,b8b:14,b8e:8,b91:14,b92:8,b96:14,b99:8,b9b:14,b9c:8,b9d:14,b9e:8,ba0:14,ba3:8,ba5:14,ba8:8,bab:14,bae:8,bba:14,bbe:3,bc3:14,bc6:3,bc9:14,bca:3,bce:14,bd0:8,bd1:14,bd7:3,bd8:14,be6:7,bf0:14,c00:3,c05:8,c0d:14,c0e:8,c11:14,c12:8,c29:14,c2a:8,c3a:14,c3c:3,c3d:8,c3e:3,c45:14,c46:3,c49:14,c4a:3,c4e:14,c55:3,c57:14,c58:8,c5b:14,c5d:8,c5e:14,c60:8,c62:3,c64:14,c66:7,c70:14,c80:8,c81:3,c84:14,c85:8,c8d:1" ++
  "4,c8e:8,c91:14,c92:8,ca9:14,caa:8,cb4:14,cb5:8,cba:14,cbc:3,cbd:8,cbe:3,cc5:14,cc6:3,cc9:14,cca:3,cce:14,cd5:3,cd7:14,cdd:8,cdf:14,ce0:8,ce2:3,ce4:14,ce6:7,cf0:14,cf1:8,cf3:3,cf4:14,d00:3,d04:8,d0d:14,d0e:8,d11:14,d12:8,d3b:3,d3d:8,d3e:3,d45:14,d46:3,d49:14,d4a:3,d4e:8,d4f:14,d54:8,d57:3,d58:14,d5f:8,d62:3,d64:14,d66:7,d70:14,d7a:8,d80:14,d81:3,d84:14,d85:8,d97:14,d9a:8,db2:14,db3:8,dbc:14,dbd:8,dbe:14,dc0:8,dc7:14,dca:3,dcb:14,dcf:3,dd5:14,dd6:3,dd7:14,dd8:3,de0:14,de6:7,df0:14,df2:3,df4:14,e01:8,e31:3,e32:8,e34:3,e3b:14,e40:8,e47:3,e4f:14,e50:7,e5a:14,e81:8,e83:14,e84:8,e85:14,e86:8,e8b:14,e8c:8,ea4:14,ea5:8,ea6:14,ea7:8,eb1:3,eb2:8,eb4:3,ebd:8,ebe:14,ec0:8,ec5:14,ec6:8,ec7:14,ec8:3,ecf:14,ed0:7,eda:14,edc:8,ee0:14,f00:8,f01:14,f18:3,f1a:14,f20:7,f2a:14,f35:3,f36:14,f37:3,f38:14,f39:3,f3a:2,f3e:3,f40:8,f48:14,f49:8,f6d:14,f71:3,f85:14,f86:3,f88:8,f8d:3,f98:14,f99:3,fbd:14,fc6:3,fc7:14,1000:8,102b:3,103f:8,1040:7,104a:10,104c:14,1050:8,1056:3,105a:8,105e:3,1061:8,1062:3,1065:8,1067:3,106e:8,1071:3,1075:8,1082:3,108e:8,108f:3,1090:7,109a:3,109e:14,10a0:13,10c6:14,10c7:13,10c8:14,10cd:13,10ce:14,10d0:8,10fb:14,10fc:6,10fd:8,1249:14,124a:8,124e:14,1250:8,1257:14,1258:8,1259:14,125a:8,125e:14,1260:8,1289:14,128a:8,128e:14,1290:8,12b1:14,12b2:8,12b6:14,12b8:8,12bf:14,12c0:8,12c1:14,12c2:8,12c6:14,12c8:8,12d7:14,12d8:8,1311:14,1312:8,1316:14,1318:8,135b:14,135d:3,1360:14,1362:10,1363:14,1367:10,1369:14,1380:8,1390:14,13a0:13,13f6:14,13f8:6,13fe:14,1401:8,166d:14,166e:10,166f:8,1680:12,1681:8,169b:2,169d:14,16a0:8,16eb:14,16ee:8,16f9:14,1700:8,1712:3,1716:14,171f:8,1732:3,1735:10,1737:14,1740:8,1752:3,1754:14,1760:8,176d:14,176e:8,1771:14,1772:3,1774:14,1780:8,17b4:3,17d4:10,17d6:14,17d7:8,17d8:14,17dc:8,17dd:3,17de:14,17e0:7,17ea:14,1802:9,1803:10,1804:14,1808:9,1809:10,180a:14,180b:3,180e:4,180f:3,1810:7,181a:14,1820:8,1879:14,1880:8,1885:3,1887:8,18a9:3,18aa:8,18ab:14,18b0:8,18f6:14,1900:8,191f:14,1920:3,192c:14,1930:3,193c:14,1944:10,1946:7,1950:8,196e:14,1970:8,1975:" ++
  "14,1980:8,19ac:14,19b0:8,19ca:14,19d0:7,19db:14,1a00:8,1a17:3,1a1c:14,1a20:8,1a55:3,1a5f:14,1a60:3,1a7d:14,1a7f:3,1a80:7,1a8a:14,1a90:7,1a9a:14,1aa7:8,1aa8:10,1aac:14,1ab0:3,1acf:14,1b00:3,1b05:8,1b34:3,1b45:8,1b4d:14,1b4e:10,1b50:7,1b5a:10,1b5c:14,1b5e:10,1b60:14,1b6b:3,1b74:14,1b7d:10,1b80:3,1b83:8,1ba1:3,1bae:8,1bb0:7,1bba:8,1be6:3,1bf4:14,1c00:8,1c24:3,1c38:14,1c3b:10,1c3d:14,1c40:7,1c4a:14,1c4d:8,1c50:7,1c5a:8,1c7e:10,1c80:6,1c89:13,1c8a:6,1c8b:14,1c90:8,1cbb:14,1cbd:8,1cc0:14,1cd0:3,1cd3:14,1cd4:3,1ce9:8,1ced:3,1cee:8,1cf4:3,1cf5:8,1cf7:3,1cfa:8,1cfb:14,1d00:6,1dc0:3,1e00:13,1e01:6,1e02:13,1e03:6,1e04:13,1e05:6,1e06:13,1e07:6,1e08:13,1e09:6,1e0a:13,1e0b:6,1e0c:13,1e0d:6,1e0e:13,1e0f:6,1e10:13,1e11:6,1e12:13,1e13:6,1e14:13,1e15:6,1e16:13,1e17:6,1e18:13,1e19:6,1e1a:13,1e1b:6,1e1c:13,1e1d:6,1e1e:13,1e1f:6,1e20:13,1e21:6,1e22:13,1e23:6,1e24:13,1e25:6,1e26:13,1e27:6,1e28:13,1e29:6,1e2a:13,1e2b:6,1e2c:13,1e2d:6,1e2e:13,1e2f:6,1e30:13,1e31:6,1e32:13,1e33:6,1e34:13,1e35:6,1e36:13,1e37:6,1e38:13,1e39:6,1e3a:13,1e3b:6,1e3c:13,1e3d:6,1e3e:13,1e3f:6,1e40:13,1e41:6,1e42:13,1e43:6,1e44:13,1e45:6,1e46:13,1e47:6,1e48:13,1e49:6,1e4a:13,1e4b:6,1e4c:13,1e4d:6,1e4e:13,1e4f:6,1e50:13,1e51:6,1e52:13,1e53:6,1e54:13,1e55:6,1e56:13,1e57:6,1e58:13,1e59:6,1e5a:13,1e5b:6,1e5c:13,1e5d:6,1e5e:13,1e5f:6,1e60:13,1e61:6,1e62:13,1e63:6,1e64:13,1e65:6,1e66:13,1e67:6,1e68:13,1e69:6,1e6a:13,1e6b:6,1e6c:13,1e6d:6,1e6e:13,1e6f:6,1e70:13,1e71:6,1e72:13,1e73:6,1e74:13,1e75:6,1e76:13,1e77:6,1e78:13,1e79:6,1e7a:13,1e7b:6,1e7c:13,1e7d:6,1e7e:13,1e7f:6,1e80:13,1e81:6,1e82:13,1e83:6,1e84:13,1e85:6,1e86:13,1e87:6,1e88:13,1e89:6,1e8a:13,1e8b:6,1e8c:13,1e8d:6,1e8e:13,1e8f:6,1e90:13,1e91:6,1e92:13,1e93:6,1e94:13,1e95:6,1e9e:13,1e9f:6,1ea0:13,1ea1:6,1ea2:13,1ea3:6,1ea4:13,1ea5:6,1ea6:13,1ea7:6,1ea8:13,1ea9:6,1eaa:13,1eab:6,1eac:13,1ead:6,1eae:13,1eaf:6,1eb0:13,1eb1:6,1eb2:13,1eb3:6,1eb4:13,1eb5:6,1eb6:13,1eb7:6,1eb8:13,1eb9:6,1eba:13,1ebb:6,1ebc:13,1ebd:6,1ebe:13,1ebf:6,1ec0:13,1ec1:6,1ec2:13,1ec3:6,1ec4:13,1e" ++
  "c5:6,1ec6:13,1ec7:6,1ec8:13,1ec9:6,1eca:13,1ecb:6,1ecc:13,1ecd:6,1ece:13,1ecf:6,1ed0:13,1ed1:6,1ed2:13,1ed3:6,1ed4:13,1ed5:6,1ed6:13,1ed7:6,1ed8:13,1ed9:6,1eda:13,1edb:6,1edc:13,1edd:6,1ede:13,1edf:6,1ee0:13,1ee1:6,1ee2:13,1ee3:6,1ee4:13,1ee5:6,1ee6:13,1ee7:6,1ee8:13,1ee9:6,1eea:13,1eeb:6,1eec:13,1eed:6,1eee:13,1eef:6,1ef0:13,1ef1:6,1ef2:13,1ef3:6,1ef4:13,1ef5:6,1ef6:13,1ef7:6,1ef8:13,1ef9:6,1efa:13,1efb:6,1efc:13,1efd:6,1efe:13,1eff:6,1f08:13,1f10:6,1f16:14,1f18:13,1f1e:14,1f20:6,1f28:13,1f30:6,1f38:13,1f40:6,1f46:14,1f48:13,1f4e:14,1f50:6,1f58:14,1f59:13,1f5a:14,1f5b:13,1f5c:14,1f5d:13,1f5e:14,1f5f:13,1f60:6,1f68:13,1f70:6,1f7e:14,1f80:6,1f88:13,1f90:6,1f98:13,1fa0:6,1fa8:13,1fb0:6,1fb5:14,1fb6:6,1fb8:13,1fbd:14,1fbe:6,1fbf:14,1fc2:6,1fc5:14,1fc6:6,1fc8:13,1fcd:14,1fd0:6,1fd4:14,1fd6:6,1fd8:13,1fdc:14,1fe0:6,1fe8:13,1fed:14,1ff2:6,1ff5:14,1ff6:6,1ff8:13,1ffd:14,2000:12,200b:4,200c:3,200e:4,2010:14,2013:9,2015:14,2018:2,2020:14,2024:0,2025:14,2028:11,202a:4,202f:12,2030:14,2039:2,203b:14,203c:10,203e:14,2045:2,2047:10,204a:14,205f:12,2060:4,2065:14,2066:4,2070:14,2071:6,2072:14,207d:2,207f:6,2080:14,208d:2,208f:14,2090:6,209d:14,20d0:3,20f1:14,2102:13,2103:14,2107:13,2108:14,210a:6,210b:13,210e:6,2110:13,2113:6,2114:14,2115:13,2116:14,2119:13,211e:14,2124:13,2125:14,2126:13,2127:14,2128:13,2129:14,212a:13,212e:14,212f:6,2130:13,2134:6,2135:8,2139:6,213a:14,213c:6,213e:13,2140:14,2145:13,2146:6,214a:14,214e:6,214f:14,2160:13,2170:6,2180:8,2183:13,2184:6,2185:8,2189:14,2308:2,230c:14,2329:2,232b:14,24b6:13,24d0:6,24ea:14,275b:2,2761:14,2768:2,2776:14,27c5:2,27c7:14,27e6:2,27f0:14,2983:2,2999:14,29d8:2,29dc:14,29fc:2,29fe:14,2c00:13,2c30:6,2c60:13,2c61:6,2c62:13,2c65:6,2c67:13,2c68:6,2c69:13,2c6a:6,2c6b:13,2c6c:6,2c6d:13,2c71:6,2c72:13,2c73:6,2c75:13,2c76:6,2c7e:13,2c81:6,2c82:13,2c83:6,2c84:13,2c85:6,2c86:13,2c87:6,2c88:13,2c89:6,2c8a:13,2c8b:6,2c8c:13,2c8d:6,2c8e:13,2c8f:6,2c90:13,2c91:6,2c92:13,2c93:6,2c94:13,2c95:6,2c96:13,2c97:6,2c98:13,2c99:6,2c9a:13,2c9b:6,2c9c" ++
  ":13,2c9d:6,2c9e:13,2c9f:6,2ca0:13,2ca1:6,2ca2:13,2ca3:6,2ca4:13,2ca5:6,2ca6:13,2ca7:6,2ca8:13,2ca9:6,2caa:13,2cab:6,2cac:13,2cad:6,2cae:13,2caf:6,2cb0:13,2cb1:6,2cb2:13,2cb3:6,2cb4:13,2cb5:6,2cb6:13,2cb7:6,2cb8:13,2cb9:6,2cba:13,2cbb:6,2cbc:13,2cbd:6,2cbe:13,2cbf:6,2cc0:13,2cc1:6,2cc2:13,2cc3:6,2cc4:13,2cc5:6,2cc6:13,2cc7:6,2cc8:13,2cc9:6,2cca:13,2ccb:6,2ccc:13,2ccd:6,2cce:13,2ccf:6,2cd0:13,2cd1:6,2cd2:13,2cd3:6,2cd4:13,2cd5:6,2cd6:13,2cd7:6,2cd8:13,2cd9:6,2cda:13,2cdb:6,2cdc:13,2cdd:6,2cde:13,2cdf:6,2ce0:13,2ce1:6,2ce2:13,2ce3:6,2ce5:14,2ceb:13,2cec:6,2ced:13,2cee:6,2cef:3,2cf2:13,2cf3:6,2cf4:14,2cf9:10,2cfc:14,2d00:6,2d26:14,2d27:6,2d28:14,2d2d:6,2d2e:14,2d30:8,2d68:14,2d6f:8,2d70:14,2d7f:3,2d80:8,2d97:14,2da0:8,2da7:14,2da8:8,2daf:14,2db0:8,2db7:14,2db8:8,2dbf:14,2dc0:8,2dc7:14,2dc8:8,2dcf:14,2dd0:8,2dd7:14,2dd8:8,2ddf:14,2de0:3,2e00:2,2e0e:14,2e1c:2,2e1e:14,2e20:2,2e2a:14,2e2e:10,2e2f:8,2e30:14,2e3c:10,2e3d:14,2e42:2,2e43:14,2e53:10,2e55:2,2e5d:14,3000:12,3001:9,3002:10,3003:14,3005:8,3008:2,3012:14,3014:2,301c:14,301d:2,3020:14,3021:8,302a:3,3030:14,3031:8,3036:14,3038:8,303d:14,3041:8,3097:14,3099:3,309b:14,309d:8,30a0:14,30a1:8,30fb:14,30fc:8,3100:14,3105:8,3130:14,3131:8,318f:14,31a0:8,31c0:14,31f0:8,3200:14,3400:8,4dc0:14,4e00:8,a48d:14,a4d0:8,a4fe:14,a4ff:10,a500:8,a60d:14,a60e:10,a610:8,a620:7,a62a:8,a62c:14,a640:13,a641:6,a642:13,a643:6,a644:13,a645:6,a646:13,a647:6,a648:13,a649:6,a64a:13,a64b:6,a64c:13,a64d:6,a64e:13,a64f:6,a650:13,a651:6,a652:13,a653:6,a654:13,a655:6,a656:13,a657:6,a658:13,a659:6,a65a:13,a65b:6,a65c:13,a65d:6,a65e:13,a65f:6,a660:13,a661:6,a662:13,a663:6,a664:13,a665:6,a666:13,a667:6,a668:13,a669:6,a66a:13,a66b:6,a66c:13,a66d:6,a66e:8,a66f:3,a673:14,a674:3,a67e:14,a67f:8,a680:13,a681:6,a682:13,a683:6,a684:13,a685:6,a686:13,a687:6,a688:13,a689:6,a68a:13,a68b:6,a68c:13,a68d:6,a68e:13,a68f:6,a690:13,a691:6,a692:13,a693:6,a694:13,a695:6,a696:13,a697:6,a698:13,a699:6,a69a:13,a69b:6,a69e:3,a6a0:8,a6f0:3,a6f2:14,a6f3:10,a6f4:14,a6f7:10,a6f8:14" ++
  ",a717:8,a720:14,a722:13,a723:6,a724:13,a725:6,a726:13,a727:6,a728:13,a729:6,a72a:13,a72b:6,a72c:13,a72d:6,a72e:13,a72f:6,a732:13,a733:6,a734:13,a735:6,a736:13,a737:6,a738:13,a739:6,a73a:13,a73b:6,a73c:13,a73d:6,a73e:13,a73f:6,a740:13,a741:6,a742:13,a743:6,a744:13,a745:6,a746:13,a747:6,a748:13,a749:6,a74a:13,a74b:6,a74c:13,a74d:6,a74e:13,a74f:6,a750:13,a751:6,a752:13,a753:6,a754:13,a755:6,a756:13,a757:6,a758:13,a759:6,a75a:13,a75b:6,a75c:13,a75d:6,a75e:13,a75f:6,a760:13,a761:6,a762:13,a763:6,a764:13,a765:6,a766:13,a767:6,a768:13,a769:6,a76a:13,a76b:6,a76c:13,a76d:6,a76e:13,a76f:6,a779:13,a77a:6,a77b:13,a77c:6,a77d:13,a77f:6,a780:13,a781:6,a782:13,a783:6,a784:13,a785:6,a786:13,a787:6,a788:8,a789:14,a78b:13,a78c:6,a78d:13,a78e:6,a78f:8,a790:13,a791:6,a792:13,a793:6,a796:13,a797:6,a798:13,a799:6,a79a:13,a79b:6,a79c:13,a79d:6,a79e:13,a79f:6,a7a0:13,a7a1:6,a7a2:13,a7a3:6,a7a4:13,a7a5:6,a7a6:13,a7a7:6,a7a8:13,a7a9:6,a7aa:13,a7af:6,a7b0:13,a7b5:6,a7b6:13,a7b7:6,a7b8:13,a7b9:6,a7ba:13,a7bb:6,a7bc:13,a7bd:6,a7be:13,a7bf:6,a7c0:13,a7c1:6,a7c2:13,a7c3:6,a7c4:13,a7c8:6,a7c9:13,a7ca:6,a7cb:13,a7cd:6,a7ce:14,a7d0:13,a7d1:6,a7d2:14,a7d3:6,a7d4:14,a7d5:6,a7d6:13,a7d7:6,a7d8:13,a7d9:6,a7da:13,a7db:6,a7dc:13,a7dd:14,a7f2:6,a7f5:13,a7f6:6,a7f7:8,a7f8:6,a7fb:8,a802:3,a803:8,a806:3,a807:8,a80b:3,a80c:8,a823:3,a828:14,a82c:3,a82d:14,a840:8,a874:14,a876:10,a878:14,a880:3,a882:8,a8b4:3,a8c6:14,a8ce:10,a8d0:7,a8da:14,a8e0:3,a8f2:8,a8f8:14,a8fb:8,a8fc:14,a8fd:8,a8ff:3,a900:7,a90a:8,a926:3,a92e:14,a92f:10,a930:8,a947:3,a954:14,a960:8,a97d:14,a980:3,a984:8,a9b3:3,a9c1:14,a9c8:10,a9ca:14,a9cf:8,a9d0:7,a9da:14,a9e0:8,a9e5:3,a9e6:8,a9f0:7,a9fa:8,a9ff:14,aa00:8,aa29:3,aa37:14,aa40:8,aa43:3,aa44:8,aa4c:3,aa4e:14,aa50:7,aa5a:14,aa5d:10,aa60:8,aa77:14,aa7a:8,aa7b:3,aa7e:8,aab0:3,aab1:8,aab2:3,aab5:8,aab7:3,aab9:8,aabe:3,aac0:8,aac1:3,aac2:8,aac3:14,aadb:8,aade:14,aae0:8,aaeb:3,aaf0:10,aaf2:8,aaf5:3,aaf7:14,ab01:8,ab07:14,ab09:8,ab0f:14,ab11:8,ab17:14,ab20:8,ab27:14,ab28:8,ab2f:14,ab30:6,ab5b:14,ab5c:6" ++
  ",ab6a:14,ab70:6,abc0:8,abe3:3,abeb:10,abec:3,abee:14,abf0:7,abfa:14,ac00:8,d7a4:14,d7b0:8,d7c7:14,d7cb:8,d7fc:14,f900:8,fa6e:14,fa70:8,fada:14,fb00:6,fb07:14,fb13:6,fb18:14,fb1d:8,fb1e:3,fb1f:8,fb29:14,fb2a:8,fb37:14,fb38:8,fb3d:14,fb3e:8,fb3f:14,fb40:8,fb42:14,fb43:8,fb45:14,fb46:8,fbb2:14,fbd3:8,fd3e:2,fd40:14,fd50:8,fd90:14,fd92:8,fdc8:14,fdf0:8,fdfc:14,fe00:3,fe10:9,fe12:10,fe13:9,fe15:10,fe17:2,fe19:14,fe20:3,fe30:14,fe31:9,fe33:14,fe35:2,fe45:14,fe47:2,fe49:14,fe50:9,fe52:0,fe53:14,fe54:9,fe56:10,fe58:9,fe59:2,fe5f:14,fe63:9,fe64:14,fe70:8,fe75:14,fe76:8,fefd:14,feff:4,ff00:14,ff01:10,ff02:14,ff08:2,ff0a:14,ff0c:9,ff0e:0,ff0f:14,ff10:7,ff1a:9,ff1c:14,ff1f:10,ff20:14,ff21:13,ff3b:2,ff3c:14,ff3d:2,ff3e:14,ff41:6,ff5b:2,ff5c:14,ff5d:2,ff5e:14,ff5f:2,ff61:10,ff62:2,ff64:9,ff65:14,ff66:8,ff9e:3,ffa0:8,ffbf:14,ffc2:8,ffc8:14,ffca:8,ffd0:14,ffd2:8,ffd8:14,ffda:8,ffdd:14,fff9:4,fffc:14,10000:8,1000c:14,1000d:8,10027:14,10028:8,1003b:14,1003c:8,1003e:14,1003f:8,1004e:14,10050:8,1005e:14,10080:8,100fb:14,10140:8,10175:14,101fd:3,101fe:14,10280:8,1029d:14,102a0:8,102d1:14,102e0:3,102e1:14,10300:8,10320:14,1032d:8,1034b:14,10350:8,10376:3,1037b:14,10380:8,1039e:14,103a0:8,103c4:14,103c8:8,103d0:14,103d1:8,103d6:14,10400:13,10428:6,10450:8,1049e:14,104a0:7,104aa:14,104b0:13,104d4:14,104d8:6,104fc:14,10500:8,10528:14,10530:8,10564:14,10570:13,1057b:14,1057c:13,1058b:14,1058c:13,10593:14,10594:13,10596:14,10597:6,105a2:14,105a3:6,105b2:14,105b3:6,105ba:14,105bb:6,105bd:14,105c0:8,105f4:14,10600:8,10737:14,10740:8,10756:14,10760:8,10768:14,10780:6,10781:8,10783:6,10786:14,10787:6,107b1:14,107b2:6,107bb:14,10800:8,10806:14,10808:8,10809:14,1080a:8,10836:14,10837:8,10839:14,1083c:8,1083d:14,1083f:8,10856:14,10860:8,10877:14,10880:8,1089f:14,108e0:8,108f3:14,108f4:8,108f6:14,10900:8,10916:14,10920:8,1093a:14,10980:8,109b8:14,109be:8,109c0:14,10a00:8,10a01:3,10a04:14,10a05:3,10a07:14,10a0c:3,10a10:8,10a14:14,10a15:8,10a18:14,10a19:8,10a36:14,10a38:3,10a3b:14,10a3f:3,10a40:14,10a5" ++
  "6:10,10a58:14,10a60:8,10a7d:14,10a80:8,10a9d:14,10ac0:8,10ac8:14,10ac9:8,10ae5:3,10ae7:14,10b00:8,10b36:14,10b40:8,10b56:14,10b60:8,10b73:14,10b80:8,10b92:14,10c00:8,10c49:14,10c80:13,10cb3:14,10cc0:6,10cf3:14,10d00:8,10d24:3,10d28:14,10d30:7,10d3a:14,10d40:7,10d4a:8,10d50:13,10d66:14,10d69:3,10d6e:14,10d6f:8,10d70:6,10d86:14,10e80:8,10eaa:14,10eab:3,10ead:14,10eb0:8,10eb2:14,10ec2:8,10ec5:14,10efc:3,10f00:8,10f1d:14,10f27:8,10f28:14,10f30:8,10f46:3,10f51:14,10f55:10,10f5a:14,10f70:8,10f82:3,10f86:10,10f8a:14,10fb0:8,10fc5:14,10fe0:8,10ff7:14,11000:3,11003:8,11038:3,11047:10,11049:14,11066:7,11070:3,11071:8,11073:3,11075:8,11076:14,1107f:3,11083:8,110b0:3,110bb:14,110bd:7,110be:10,110c2:3,110c3:14,110cd:7,110ce:14,110d0:8,110e9:14,110f0:7,110fa:14,11100:3,11103:8,11127:3,11135:14,11136:7,11140:14,11141:10,11144:8,11145:3,11147:8,11148:14,11150:8,11173:3,11174:14,11176:8,11177:14,11180:3,11183:8,111b3:3,111c1:8,111c5:10,111c7:14,111c9:3,111cd:10,111ce:3,111d0:7,111da:8,111db:14,111dc:8,111dd:14,111de:10,111e0:14,11200:8,11212:14,11213:8,1122c:3,11238:10,1123a:14,1123b:10,1123d:14,1123e:3,1123f:8,11241:3,11242:14,11280:8,11287:14,11288:8,11289:14,1128a:8,1128e:14,1128f:8,1129e:14,1129f:8,112a9:10,112aa:14,112b0:8,112df:3,112eb:14,112f0:7,112fa:14,11300:3,11304:14,11305:8,1130d:14,1130f:8,11311:14,11313:8,11329:14,1132a:8,11331:14,11332:8,11334:14,11335:8,1133a:14,1133b:3,1133d:8,1133e:3,11345:14,11347:3,11349:14,1134b:3,1134e:14,11350:8,11351:14,11357:3,11358:14,1135d:8,11362:3,11364:14,11366:3,1136d:14,11370:3,11375:14,11380:8,1138a:14,1138b:8,1138c:14,1138e:8,1138f:14,11390:8,113b6:14,113b7:8,113b8:3,113c1:14,113c2:3,113c3:14,113c5:3,113c6:14,113c7:3,113cb:14,113cc:3,113d1:8,113d2:3,113d3:8,113d4:10,113d6:14,113e1:3,113e3:14,11400:8,11435:3,11447:8,1144b:10,1144d:14,11450:7,1145a:14,1145e:3,1145f:8,11462:14,11480:8,114b0:3,114c4:8,114c6:14,114c7:8,114c8:14,114d0:7,114da:14,11580:8,115af:3,115b6:14,115b8:3,115c1:14,115c2:10,115c4:14,115c9:10,115d8:8,115dc:3,115de:14," ++
  "11600:8,11630:3,11641:10,11643:14,11644:8,11645:14,11650:7,1165a:14,11680:8,116ab:3,116b8:8,116b9:14,116c0:7,116ca:14,116d0:7,116e4:14,11700:8,1171b:14,1171d:3,1172c:14,11730:7,1173a:14,1173c:10,1173f:14,11740:8,11747:14,11800:8,1182c:3,1183b:14,118a0:13,118c0:6,118e0:7,118ea:14,118ff:8,11907:14,11909:8,1190a:14,1190c:8,11914:14,11915:8,11917:14,11918:8,11930:3,11936:14,11937:3,11939:14,1193b:3,1193f:8,11940:3,11941:8,11942:3,11944:10,11945:14,11946:10,11947:14,11950:7,1195a:14,119a0:8,119a8:14,119aa:8,119d1:3,119d8:14,119da:3,119e1:8,119e2:14,119e3:8,119e4:3,119e5:14,11a00:8,11a01:3,11a0b:8,11a33:3,11a3a:8,11a3b:3,11a3f:14,11a42:10,11a44:14,11a47:3,11a48:14,11a50:8,11a51:3,11a5c:8,11a8a:3,11a9a:14,11a9b:10,11a9d:8,11a9e:14,11ab0:8,11af9:14,11bc0:8,11be1:14,11bf0:7,11bfa:14,11c00:8,11c09:14,11c0a:8,11c2f:3,11c37:14,11c38:3,11c40:8,11c41:10,11c43:14,11c50:7,11c5a:14,11c72:8,11c90:14,11c92:3,11ca8:14,11ca9:3,11cb7:14,11d00:8,11d07:14,11d08:8,11d0a:14,11d0b:8,11d31:3,11d37:14,11d3a:3,11d3b:14,11d3c:3,11d3e:14,11d3f:3,11d46:8,11d47:3,11d48:14,11d50:7,11d5a:14,11d60:8,11d66:14,11d67:8,11d69:14,11d6a:8,11d8a:3,11d8f:14,11d90:3,11d92:14,11d93:3,11d98:8,11d99:14,11da0:7,11daa:14,11ee0:8,11ef3:3,11ef7:10,11ef9:14,11f00:3,11f02:8,11f03:3,11f04:8,11f11:14,11f12:8,11f34:3,11f3b:14,11f3e:3,11f43:10,11f45:14,11f50:7,11f5a:3,11f5b:14,11fb0:8,11fb1:14,12000:8,1239a:14,12400:8,1246f:14,12480:8,12544:14,12f90:8,12ff1:14,13000:8,13430:4,13440:3,13441:8,13447:3,13456:14,13460:8,143fb:14,14400:8,14647:14,16100:8,1611e:3,16130:7,1613a:14,16800:8,16a39:14,16a40:8,16a5f:14,16a60:7,16a6a:14,16a6e:10,16a70:8,16abf:14,16ac0:7,16aca:14,16ad0:8,16aee:14,16af0:3,16af5:10,16af6:14,16b00:8,16b30:3,16b37:10,16b39:14,16b40:8,16b44:10,16b45:14,16b50:7,16b5a:14,16b63:8,16b78:14,16b7d:8,16b90:14,16d40:8,16d6d:14,16d6e:10,16d70:7,16d7a:14,16e40:13,16e60:6,16e80:14,16e98:10,16e99:14,16f00:8,16f4b:14,16f4f:3,16f50:8,16f51:3,16f88:14,16f8f:3,16f93:8,16fa0:14,16fe0:8,16fe2:14,16fe3:8,16fe4:3,16fe5:14,16ff0:" ++
  "3,16ff2:14,17000:8,187f8:14,18800:8,18cd6:14,18cff:8,18d09:14,1aff0:8,1aff4:14,1aff5:8,1affc:14,1affd:8,1afff:14,1b000:8,1b123:14,1b132:8,1b133:14,1b150:8,1b153:14,1b155:8,1b156:14,1b164:8,1b168:14,1b170:8,1b2fc:14,1bc00:8,1bc6b:14,1bc70:8,1bc7d:14,1bc80:8,1bc89:14,1bc90:8,1bc9a:14,1bc9d:3,1bc9f:10,1bca0:4,1bca4:14,1ccf0:7,1ccfa:14,1cf00:3,1cf2e:14,1cf30:3,1cf47:14,1d165:3,1d16a:14,1d16d:3,1d173:4,1d17b:3,1d183:14,1d185:3,1d18c:14,1d1aa:3,1d1ae:14,1d242:3,1d245:14,1d400:13,1d41a:6,1d434:13,1d44e:6,1d455:14,1d456:6,1d468:13,1d482:6,1d49c:13,1d49d:14,1d49e:13,1d4a0:14,1d4a2:13,1d4a3:14,1d4a5:13,1d4a7:14,1d4a9:13,1d4ad:14,1d4ae:13,1d4b6:6,1d4ba:14,1d4bb:6,1d4bc:14,1d4bd:6,1d4c4:14,1d4c5:6,1d4d0:13,1d4ea:6,1d504:13,1d506:14,1d507:13,1d50b:14,1d50d:13,1d515:14,1d516:13,1d51d:14,1d51e:6,1d538:13,1d53a:14,1d53b:13,1d53f:14,1d540:13,1d545:14,1d546:13,1d547:14,1d54a:13,1d551:14,1d552:6,1d56c:13,1d586:6,1d5a0:13,1d5ba:6,1d5d4:13,1d5ee:6,1d608:13,1d622:6,1d63c:13,1d656:6,1d670:13,1d68a:6,1d6a6:14,1d6a8:13,1d6c1:14,1d6c2:6,1d6db:14,1d6dc:6,1d6e2:13,1d6fb:14,1d6fc:6,1d715:14,1d716:6,1d71c:13,1d735:14,1d736:6,1d74f:14,1d750:6,1d756:13,1d76f:14,1d770:6,1d789:14,1d78a:6,1d790:13,1d7a9:14,1d7aa:6,1d7c3:14,1d7c4:6,1d7ca:13,1d7cb:6,1d7cc:14,1d7ce:7,1d800:14,1da00:3,1da37:14,1da3b:3,1da6d:14,1da75:3,1da76:14,1da84:3,1da85:14,1da88:10,1da89:14,1da9b:3,1daa0:14,1daa1:3,1dab0:14,1df00:6,1df0a:8,1df0b:6,1df1f:14,1df25:6,1df2b:14,1e000:3,1e007:14,1e008:3,1e019:14,1e01b:3,1e022:14,1e023:3,1e025:14,1e026:3,1e02b:14,1e030:6,1e06e:14,1e08f:3,1e090:14,1e100:8,1e12d:14,1e130:3,1e137:8,1e13e:14,1e140:7,1e14a:14,1e14e:8,1e14f:14,1e290:8,1e2ae:3,1e2af:14,1e2c0:8,1e2ec:3,1e2f0:7,1e2fa:14,1e4d0:8,1e4ec:3,1e4f0:7,1e4fa:14,1e5d0:8,1e5ee:3,1e5f0:8,1e5f1:7,1e5fb:14,1e7e0:8,1e7e7:14,1e7e8:8,1e7ec:14,1e7ed:8,1e7ef:14,1e7f0:8,1e7ff:14,1e800:8,1e8c5:14,1e8d0:3,1e8d7:14,1e900:13,1e922:6,1e944:3,1e94b:8,1e94c:14,1e950:7,1e95a:14,1ee00:8,1ee04:14,1ee05:8,1ee20:14,1ee21:8,1ee23:14,1ee24:8,1ee25:14,1ee27:8,1ee28:1" ++
  "4,1ee29:8,1ee33:14,1ee34:8,1ee38:14,1ee39:8,1ee3a:14,1ee3b:8,1ee3c:14,1ee42:8,1ee43:14,1ee47:8,1ee48:14,1ee49:8,1ee4a:14,1ee4b:8,1ee4c:14,1ee4d:8,1ee50:14,1ee51:8,1ee53:14,1ee54:8,1ee55:14,1ee57:8,1ee58:14,1ee59:8,1ee5a:14,1ee5b:8,1ee5c:14,1ee5d:8,1ee5e:14,1ee5f:8,1ee60:14,1ee61:8,1ee63:14,1ee64:8,1ee65:14,1ee67:8,1ee6b:14,1ee6c:8,1ee73:14,1ee74:8,1ee78:14,1ee79:8,1ee7d:14,1ee7e:8,1ee7f:14,1ee80:8,1ee8a:14,1ee8b:8,1ee9c:14,1eea1:8,1eea4:14,1eea5:8,1eeaa:14,1eeab:8,1eebc:14,1f130:13,1f14a:14,1f150:13,1f16a:14,1f170:13,1f18a:14,1f676:2,1f679:14,1fbf0:7,1fbfa:14,20000:8,2a6e0:14,2a700:8,2b73a:14,2b740:8,2b81e:14,2b820:8,2cea2:14,2ceb0:8,2ebe1:14,2ebf0:8,2ee5e:14,2f800:8,2fa1e:14,30000:8,3134b:14,31350:8,323b0:14,e0001:4,e0002:14,e0020:3,e0080:14,e0100:3,e01f0:14"

/-- The Sentence_Break runs, decoded. -/
def sentenceBreakRuns : Array (Nat × Nat) := Text.Compact.runs sentenceBreakText

end Unicode

end ScriptLib
