import LiveGrid.Text.Table

/-!
Contract: the compatibility decomposition of single characters.

Owns: the full decomposition of every character that may stand in a name, by
the Unicode character database, version 14. Syllables that decompose by a rule
follow the rule.

Does not own: the order of marks, and composition.
-/

namespace LiveGrid.Text.Compatibility

/-- The characters that decompose into one other character, as rows `start count stride
target`. -/
private def singleDecompositions : List (List Nat) :=
  Table.rows [
    "170 1 1 97; 181 1 1 956; 186 1 1 111; 383 1 1 115; 688 1 1 104; 689 1 1 614; 690 1 1 106",
    "691 1 1 114; 692 1 1 633; 693 1 1 635; 694 1 1 641; 695 1 1 119; 696 1 1 121",
    "736 1 1 611; 737 1 1 108; 738 1 1 115; 739 1 1 120; 740 1 1 661; 832 2 1 768",
    "835 1 1 787; 884 1 1 697; 903 1 1 183; 976 1 1 946; 977 1 1 952; 978 1 1 933",
    "981 1 1 966; 982 1 1 960; 1008 1 1 954; 1009 2 1 961; 1012 1 1 920; 1013 1 1 949",
    "1017 1 1 931; 4348 1 1 4316; 7468 1 1 65; 7469 1 1 198; 7470 2 2 66; 7473 1 1 69",
    "7474 1 1 398; 7475 8 1 71; 7484 1 1 79; 7485 1 1 546; 7486 1 1 80; 7487 1 1 82",
    "7488 2 1 84; 7490 1 1 87; 7491 1 1 97; 7492 2 1 592; 7494 1 1 7426; 7495 1 1 98",
    "7496 2 1 100; 7498 1 1 601; 7499 2 1 603; 7501 1 1 103; 7503 1 1 107; 7504 1 1 109",
    "7505 1 1 331; 7506 1 1 111; 7507 1 1 596; 7508 2 1 7446; 7510 1 1 112; 7511 2 1 116",
    "7513 1 1 7453; 7514 1 1 623; 7515 1 1 118; 7516 1 1 7461; 7517 3 1 946; 7520 2 1 966",
    "7522 1 1 105; 7523 1 1 114; 7524 2 1 117; 7526 2 1 946; 7528 1 1 961; 7529 2 1 966",
    "7544 1 1 1085; 7579 1 1 594; 7580 1 1 99; 7581 1 1 597; 7582 1 1 240; 7583 1 1 604",
    "7584 1 1 102; 7585 1 1 607; 7586 1 1 609; 7587 1 1 613; 7588 3 1 616; 7591 1 1 7547",
    "7592 1 1 669; 7593 1 1 621; 7594 1 1 7557; 7595 1 1 671; 7596 1 1 625; 7597 1 1 624",
    "7598 4 1 626; 7602 1 1 632; 7603 2 1 642; 7605 1 1 427; 7606 2 1 649; 7608 1 1 7452",
    "7609 2 1 651; 7611 1 1 122; 7612 3 1 656; 7615 1 1 952; 8126 1 1 953; 8305 1 1 105",
    "8319 1 1 110; 8336 1 1 97; 8337 1 1 101; 8338 1 1 111; 8339 1 1 120; 8340 1 1 601",
    "8341 1 1 104; 8342 4 1 107; 8346 1 1 112; 8347 2 1 115; 8450 1 1 67; 8455 1 1 400",
    "8458 1 1 103; 8459 1 1 72; 8460 1 1 72; 8461 1 1 72; 8462 1 1 104; 8463 1 1 295",
    "8464 1 1 73; 8465 1 1 73; 8466 1 1 76; 8467 1 1 108; 8469 1 1 78; 8473 3 1 80",
    "8476 1 1 82; 8477 1 1 82; 8484 1 1 90; 8486 1 1 937; 8488 1 1 90; 8490 1 1 75",
    "8492 2 1 66; 8495 1 1 101; 8496 2 1 69; 8499 1 1 77; 8500 1 1 111; 8501 4 1 1488",
    "8505 1 1 105; 8508 1 1 960; 8509 1 1 947; 8510 1 1 915; 8511 1 1 928; 8517 1 1 68",
    "8518 2 1 100; 8520 2 1 105; 8544 1 1 73; 8548 1 1 86; 8553 1 1 88; 8556 1 1 76",
    "8557 2 1 67; 8559 1 1 77; 8560 1 1 105; 8564 1 1 118; 8569 1 1 120; 8572 1 1 108",
    "8573 2 1 99; 8575 1 1 109; 11388 1 1 106; 11389 1 1 86; 11631 1 1 11617; 12344 1 1 21313",
    "12345 2 1 21316; 12593 2 1 4352; 12595 1 1 4522; 12596 1 1 4354; 12597 2 1 4524",
    "12599 3 1 4355; 12602 6 1 4528; 12608 1 1 4378; 12609 3 1 4358; 12612 1 1 4385",
    "12613 10 1 4361; 12623 21 1 4449; 12644 1 1 4448; 12645 2 1 4372; 12647 2 1 4551",
    "12649 1 1 4556; 12650 1 1 4558; 12651 1 1 4563; 12652 1 1 4567; 12653 1 1 4569",
    "12654 1 1 4380; 12655 1 1 4573; 12656 1 1 4575; 12657 2 1 4381; 12659 1 1 4384",
    "12660 2 1 4386; 12662 1 1 4391; 12663 1 1 4393; 12664 5 1 4395; 12669 1 1 4402",
    "12670 1 1 4406; 12671 1 1 4416; 12672 1 1 4423; 12673 1 1 4428; 12674 2 1 4593",
    "12676 3 1 4439; 12679 2 1 4484; 12681 1 1 4488; 12682 2 1 4497; 12684 1 1 4500",
    "12685 1 1 4510; 12686 1 1 4513; 42652 1 1 1098; 42653 1 1 1100; 42864 1 1 42863",
    "42994 1 1 67; 42995 1 1 70; 42996 1 1 81; 43000 1 1 294; 43001 1 1 339; 43868 1 1 42791",
    "43869 1 1 43831; 43870 1 1 619; 43871 1 1 43858; 43881 1 1 653; 63744 1 1 35912",
    "63745 1 1 26356; 63746 1 1 36554; 63747 1 1 36040; 63748 1 1 28369; 63749 1 1 20018",
    "63750 1 1 21477; 63751 1 1 40860; 63752 1 1 40860; 63753 1 1 22865; 63754 1 1 37329",
    "63755 1 1 21895; 63756 1 1 22856; 63757 1 1 25078; 63758 1 1 30313; 63759 1 1 32645",
    "63760 1 1 34367; 63761 1 1 34746; 63762 1 1 35064; 63763 1 1 37007; 63764 1 1 27138",
    "63765 1 1 27931; 63766 1 1 28889; 63767 1 1 29662; 63768 1 1 33853; 63769 1 1 37226",
    "63770 1 1 39409; 63771 1 1 20098; 63772 1 1 21365; 63773 1 1 27396; 63774 1 1 29211",
    "63775 1 1 34349; 63776 1 1 40478; 63777 1 1 23888; 63778 1 1 28651; 63779 1 1 34253",
    "63780 1 1 35172; 63781 1 1 25289; 63782 1 1 33240; 63783 1 1 34847; 63784 1 1 24266",
    "63785 1 1 26391; 63786 1 1 28010; 63787 1 1 29436; 63788 1 1 37070; 63789 1 1 20358",
    "63790 1 1 20919; 63791 1 1 21214; 63792 1 1 25796; 63793 1 1 27347; 63794 1 1 29200",
    "63795 1 1 30439; 63796 1 1 32769; 63797 1 1 34310; 63798 1 1 34396; 63799 1 1 36335",
    "63800 1 1 38706; 63801 1 1 39791; 63802 1 1 40442; 63803 1 1 30860; 63804 1 1 31103",
    "63805 1 1 32160; 63806 1 1 33737; 63807 1 1 37636; 63808 1 1 40575; 63809 1 1 35542",
    "63810 1 1 22751; 63811 1 1 24324; 63812 1 1 31840; 63813 1 1 32894; 63814 1 1 29282",
    "63815 1 1 30922; 63816 1 1 36034; 63817 1 1 38647; 63818 1 1 22744; 63819 1 1 23650",
    "63820 1 1 27155; 63821 1 1 28122; 63822 1 1 28431; 63823 1 1 32047; 63824 1 1 32311",
    "63825 1 1 38475; 63826 1 1 21202; 63827 1 1 32907; 63828 1 1 20956; 63829 1 1 20940",
    "63830 1 1 31260; 63831 1 1 32190; 63832 1 1 33777; 63833 1 1 38517; 63834 1 1 35712",
    "63835 1 1 25295; 63836 1 1 27138; 63837 1 1 35582; 63838 1 1 20025; 63839 1 1 23527",
    "63840 1 1 24594; 63841 1 1 29575; 63842 1 1 30064; 63843 1 1 21271; 63844 1 1 30971",
    "63845 1 1 20415; 63846 1 1 24489; 63847 1 1 19981; 63848 1 1 27852; 63849 1 1 25976",
    "63850 1 1 32034; 63851 1 1 21443; 63852 1 1 22622; 63853 1 1 30465; 63854 1 1 33865",
    "63855 1 1 35498; 63856 1 1 27578; 63857 1 1 36784; 63858 1 1 27784; 63859 1 1 25342",
    "63860 1 1 33509; 63861 1 1 25504; 63862 1 1 30053; 63863 1 1 20142; 63864 1 1 20841",
    "63865 1 1 20937; 63866 1 1 26753; 63867 1 1 31975; 63868 1 1 33391; 63869 1 1 35538",
    "63870 1 1 37327; 63871 1 1 21237; 63872 1 1 21570; 63873 1 1 22899; 63874 1 1 24300",
    "63875 1 1 26053; 63876 1 1 28670; 63877 1 1 31018; 63878 1 1 38317; 63879 1 1 39530",
    "63880 1 1 40599; 63881 1 1 40654; 63882 1 1 21147; 63883 1 1 26310; 63884 1 1 27511",
    "63885 1 1 36706; 63886 1 1 24180; 63887 1 1 24976; 63888 1 1 25088; 63889 1 1 25754",
    "63890 1 1 28451; 63891 1 1 29001; 63892 1 1 29833; 63893 1 1 31178; 63894 1 1 32244",
    "63895 1 1 32879; 63896 1 1 36646; 63897 1 1 34030; 63898 1 1 36899; 63899 1 1 37706",
    "63900 1 1 21015; 63901 1 1 21155; 63902 1 1 21693; 63903 1 1 28872; 63904 1 1 35010",
    "63905 1 1 35498; 63906 1 1 24265; 63907 1 1 24565; 63908 1 1 25467; 63909 1 1 27566",
    "63910 1 1 31806; 63911 1 1 29557; 63912 1 1 20196; 63913 1 1 22265; 63914 1 1 23527",
    "63915 1 1 23994; 63916 1 1 24604; 63917 1 1 29618; 63918 1 1 29801; 63919 1 1 32666",
    "63920 1 1 32838; 63921 1 1 37428; 63922 1 1 38646; 63923 1 1 38728; 63924 1 1 38936",
    "63925 1 1 20363; 63926 1 1 31150; 63927 1 1 37300; 63928 1 1 38584; 63929 1 1 24801",
    "63930 1 1 20102; 63931 1 1 20698; 63932 1 1 23534; 63933 1 1 23615; 63934 1 1 26009",
    "63935 1 1 27138; 63936 1 1 29134; 63937 1 1 30274; 63938 1 1 34044; 63939 1 1 36988",
    "63940 1 1 40845; 63941 1 1 26248; 63942 1 1 38446; 63943 1 1 21129; 63944 1 1 26491",
    "63945 1 1 26611; 63946 1 1 27969; 63947 1 1 28316; 63948 1 1 29705; 63949 1 1 30041",
    "63950 1 1 30827; 63951 1 1 32016; 63952 1 1 39006; 63953 1 1 20845; 63954 1 1 25134",
    "63955 1 1 38520; 63956 1 1 20523; 63957 1 1 23833; 63958 1 1 28138; 63959 1 1 36650",
    "63960 1 1 24459; 63961 1 1 24900; 63962 1 1 26647; 63963 1 1 29575; 63964 1 1 38534",
    "63965 1 1 21033; 63966 1 1 21519; 63967 1 1 23653; 63968 1 1 26131; 63969 1 1 26446",
    "63970 1 1 26792; 63971 1 1 27877; 63972 1 1 29702; 63973 1 1 30178; 63974 1 1 32633",
    "63975 1 1 35023; 63976 1 1 35041; 63977 1 1 37324; 63978 1 1 38626; 63979 1 1 21311",
    "63980 1 1 28346; 63981 1 1 21533; 63982 1 1 29136; 63983 1 1 29848; 63984 1 1 34298",
    "63985 1 1 38563; 63986 1 1 40023; 63987 1 1 40607; 63988 1 1 26519; 63989 1 1 28107",
    "63990 1 1 33256; 63991 1 1 31435; 63992 1 1 31520; 63993 1 1 31890; 63994 1 1 29376",
    "63995 1 1 28825; 63996 1 1 35672; 63997 1 1 20160; 63998 1 1 33590; 63999 1 1 21050",
    "64000 1 1 20999; 64001 1 1 24230; 64002 1 1 25299; 64003 1 1 31958; 64004 1 1 23429",
    "64005 1 1 27934; 64006 1 1 26292; 64007 1 1 36667; 64008 1 1 34892; 64009 1 1 38477",
    "64010 1 1 35211; 64011 1 1 24275; 64012 1 1 20800; 64013 1 1 21952; 64016 1 1 22618",
    "64018 1 1 26228; 64021 1 1 20958; 64022 1 1 29482; 64023 1 1 30410; 64024 1 1 31036",
    "64025 1 1 31070; 64026 1 1 31077; 64027 1 1 31119; 64028 1 1 38742; 64029 1 1 31934",
    "64030 1 1 32701; 64032 1 1 34322; 64034 1 1 35576; 64037 1 1 36920; 64038 1 1 37117",
    "64042 1 1 39151; 64043 1 1 39164; 64044 1 1 39208; 64045 1 1 40372; 64046 1 1 37086",
    "64047 1 1 38583; 64048 1 1 20398; 64049 1 1 20711; 64050 1 1 20813; 64051 1 1 21193",
    "64052 1 1 21220; 64053 1 1 21329; 64054 1 1 21917; 64055 1 1 22022; 64056 1 1 22120",
    "64057 1 1 22592; 64058 1 1 22696; 64059 1 1 23652; 64060 1 1 23662; 64061 1 1 24724",
    "64062 1 1 24936; 64063 1 1 24974; 64064 1 1 25074; 64065 1 1 25935; 64066 1 1 26082",
    "64067 1 1 26257; 64068 1 1 26757; 64069 1 1 28023; 64070 1 1 28186; 64071 1 1 28450",
    "64072 1 1 29038; 64073 1 1 29227; 64074 1 1 29730; 64075 1 1 30865; 64076 1 1 31038",
    "64077 1 1 31049; 64078 1 1 31048; 64079 1 1 31056; 64080 1 1 31062; 64081 1 1 31069",
    "64082 2 1 31117; 64084 1 1 31296; 64085 1 1 31361; 64086 1 1 31680; 64087 1 1 32244",
    "64088 1 1 32265; 64089 1 1 32321; 64090 1 1 32626; 64091 1 1 32773; 64092 1 1 33261",
    "64093 1 1 33401; 64094 1 1 33401; 64095 1 1 33879; 64096 1 1 35088; 64097 1 1 35222",
    "64098 1 1 35585; 64099 1 1 35641; 64100 1 1 36051; 64101 1 1 36104; 64102 1 1 36790",
    "64103 1 1 36920; 64104 1 1 38627; 64105 1 1 38911; 64106 1 1 38971; 64107 1 1 24693",
    "64108 1 1 148206; 64109 1 1 33304; 64112 1 1 20006; 64113 1 1 20917; 64114 1 1 20840",
    "64115 1 1 20352; 64116 1 1 20805; 64117 1 1 20864; 64118 1 1 21191; 64119 1 1 21242",
    "64120 1 1 21917; 64121 1 1 21845; 64122 1 1 21913; 64123 1 1 21986; 64124 1 1 22618",
    "64125 1 1 22707; 64126 1 1 22852; 64127 1 1 22868; 64128 1 1 23138; 64129 1 1 23336",
    "64130 1 1 24274; 64131 1 1 24281; 64132 1 1 24425; 64133 1 1 24493; 64134 1 1 24792",
    "64135 1 1 24910; 64136 1 1 24840; 64137 1 1 24974; 64138 1 1 24928; 64139 1 1 25074",
    "64140 1 1 25140; 64141 1 1 25540; 64142 1 1 25628; 64143 1 1 25682; 64144 1 1 25942",
    "64145 1 1 26228; 64146 1 1 26391; 64147 1 1 26395; 64148 1 1 26454; 64149 1 1 27513",
    "64150 1 1 27578; 64151 1 1 27969; 64152 1 1 28379; 64153 1 1 28363; 64154 1 1 28450",
    "64155 1 1 28702; 64156 1 1 29038; 64157 1 1 30631; 64158 1 1 29237; 64159 1 1 29359",
    "64160 1 1 29482; 64161 1 1 29809; 64162 1 1 29958; 64163 1 1 30011; 64164 1 1 30237",
    "64165 1 1 30239; 64166 1 1 30410; 64167 1 1 30427; 64168 1 1 30452; 64169 1 1 30538",
    "64170 1 1 30528; 64171 1 1 30924; 64172 1 1 31409; 64173 1 1 31680; 64174 1 1 31867",
    "64175 1 1 32091; 64176 1 1 32244; 64177 1 1 32574; 64178 1 1 32773; 64179 1 1 33618",
    "64180 1 1 33775; 64181 1 1 34681; 64182 1 1 35137; 64183 1 1 35206; 64184 1 1 35222",
    "64185 1 1 35519; 64186 1 1 35576; 64187 1 1 35531; 64188 1 1 35585; 64189 1 1 35582",
    "64190 1 1 35565; 64191 1 1 35641; 64192 1 1 35722; 64193 1 1 36104; 64194 1 1 36664",
    "64195 1 1 36978; 64196 1 1 37273; 64197 1 1 37494; 64198 1 1 38524; 64199 1 1 38627",
    "64200 1 1 38742; 64201 1 1 38875; 64202 1 1 38911; 64203 1 1 38923; 64204 1 1 38971",
    "64205 1 1 39698; 64206 1 1 40860; 64207 1 1 141386; 64208 1 1 141380; 64209 1 1 144341",
    "64210 1 1 15261; 64211 1 1 16408; 64212 1 1 16441; 64213 1 1 152137; 64214 1 1 154832",
    "64215 1 1 163539; 64216 1 1 40771; 64217 1 1 40846; 64288 1 1 1506; 64289 1 1 1488",
    "64290 2 1 1491; 64292 3 1 1499; 64295 1 1 1512; 64296 1 1 1514; 64336 1 1 1649",
    "64337 1 1 1649; 64338 1 1 1659; 64339 1 1 1659; 64340 1 1 1659; 64341 1 1 1659",
    "64342 1 1 1662; 64343 1 1 1662; 64344 1 1 1662; 64345 1 1 1662; 64346 1 1 1664",
    "64347 1 1 1664; 64348 1 1 1664; 64349 1 1 1664; 64350 1 1 1658; 64351 1 1 1658",
    "64352 1 1 1658; 64353 1 1 1658; 64354 1 1 1663; 64355 1 1 1663; 64356 1 1 1663",
    "64357 1 1 1663; 64358 1 1 1657; 64359 1 1 1657; 64360 1 1 1657; 64361 1 1 1657",
    "64362 1 1 1700; 64363 1 1 1700; 64364 1 1 1700; 64365 1 1 1700; 64366 1 1 1702",
    "64367 1 1 1702; 64368 1 1 1702; 64369 1 1 1702; 64370 1 1 1668; 64371 1 1 1668",
    "64372 1 1 1668; 64373 1 1 1668; 64374 1 1 1667; 64375 1 1 1667; 64376 1 1 1667",
    "64377 1 1 1667; 64378 1 1 1670; 64379 1 1 1670; 64380 1 1 1670; 64381 2 1 1670",
    "64383 1 1 1671; 64384 1 1 1671; 64385 1 1 1671; 64386 1 1 1677; 64387 1 1 1677",
    "64388 1 1 1676; 64389 1 1 1676; 64390 1 1 1678; 64391 1 1 1678; 64392 1 1 1672",
    "64393 1 1 1672; 64394 1 1 1688; 64395 1 1 1688; 64396 1 1 1681; 64397 1 1 1681",
    "64398 1 1 1705; 64399 1 1 1705; 64400 1 1 1705; 64401 1 1 1705; 64402 1 1 1711",
    "64403 1 1 1711; 64404 1 1 1711; 64405 1 1 1711; 64406 1 1 1715; 64407 1 1 1715",
    "64408 1 1 1715; 64409 1 1 1715; 64410 1 1 1713; 64411 1 1 1713; 64412 1 1 1713",
    "64413 1 1 1713; 64414 1 1 1722; 64415 2 1 1722; 64417 1 1 1723; 64418 1 1 1723",
    "64419 1 1 1723; 64422 1 1 1729; 64423 1 1 1729; 64424 1 1 1729; 64425 1 1 1729",
    "64426 1 1 1726; 64427 1 1 1726; 64428 1 1 1726; 64429 1 1 1726; 64430 1 1 1746",
    "64431 1 1 1746; 64467 1 1 1709; 64468 1 1 1709; 64469 1 1 1709; 64470 1 1 1709",
    "64471 1 1 1735; 64472 1 1 1735; 64473 1 1 1734; 64474 1 1 1734; 64475 1 1 1736",
    "64476 1 1 1736; 64478 1 1 1739; 64479 1 1 1739; 64480 1 1 1733; 64481 1 1 1733",
    "64482 1 1 1737; 64483 1 1 1737; 64484 1 1 1744; 64485 1 1 1744; 64486 1 1 1744",
    "64487 1 1 1744; 64488 1 1 1609; 64489 1 1 1609; 64508 1 1 1740; 64509 1 1 1740",
    "64510 1 1 1740; 64511 1 1 1740; 65075 1 1 95; 65076 1 1 95; 65101 1 1 95; 65102 1 1 95",
    "65103 1 1 95; 65152 1 1 1569; 65165 1 1 1575; 65166 2 1 1575; 65168 1 1 1576",
    "65169 1 1 1576; 65170 2 1 1576; 65172 2 1 1577; 65174 1 1 1578; 65175 1 1 1578",
    "65176 2 1 1578; 65178 1 1 1579; 65179 1 1 1579; 65180 2 1 1579; 65182 1 1 1580",
    "65183 1 1 1580; 65184 2 1 1580; 65186 1 1 1581; 65187 1 1 1581; 65188 2 1 1581",
    "65190 1 1 1582; 65191 1 1 1582; 65192 2 1 1582; 65194 2 1 1583; 65196 2 1 1584",
    "65198 2 1 1585; 65200 2 1 1586; 65202 1 1 1587; 65203 1 1 1587; 65204 2 1 1587",
    "65206 1 1 1588; 65207 1 1 1588; 65208 2 1 1588; 65210 1 1 1589; 65211 1 1 1589",
    "65212 2 1 1589; 65214 1 1 1590; 65215 1 1 1590; 65216 2 1 1590; 65218 1 1 1591",
    "65219 1 1 1591; 65220 2 1 1591; 65222 1 1 1592; 65223 1 1 1592; 65224 2 1 1592",
    "65226 1 1 1593; 65227 1 1 1593; 65228 2 1 1593; 65230 1 1 1594; 65231 1 1 1594",
    "65232 1 1 1594; 65233 1 1 1601; 65234 1 1 1601; 65235 1 1 1601; 65236 2 1 1601",
    "65238 1 1 1602; 65239 1 1 1602; 65240 2 1 1602; 65242 1 1 1603; 65243 1 1 1603",
    "65244 2 1 1603; 65246 1 1 1604; 65247 1 1 1604; 65248 2 1 1604; 65250 1 1 1605",
    "65251 1 1 1605; 65252 2 1 1605; 65254 1 1 1606; 65255 1 1 1606; 65256 2 1 1606",
    "65258 1 1 1607; 65259 1 1 1607; 65260 2 1 1607; 65262 2 1 1608; 65264 2 1 1609",
    "65266 1 1 1610; 65267 1 1 1610; 65268 1 1 1610; 65296 10 1 48; 65313 26 1 65",
    "65343 2 2 95; 65346 25 1 98; 65382 1 1 12530; 65383 1 1 12449; 65384 1 1 12451",
    "65385 1 1 12453; 65386 1 1 12455; 65387 1 1 12457; 65388 1 1 12515; 65389 1 1 12517",
    "65390 1 1 12519; 65391 1 1 12483; 65392 1 1 12540; 65393 1 1 12450; 65394 1 1 12452",
    "65395 1 1 12454; 65396 1 1 12456; 65397 2 1 12458; 65399 1 1 12461; 65400 1 1 12463",
    "65401 1 1 12465; 65402 1 1 12467; 65403 1 1 12469; 65404 1 1 12471; 65405 1 1 12473",
    "65406 1 1 12475; 65407 1 1 12477; 65408 1 1 12479; 65409 1 1 12481; 65410 1 1 12484",
    "65411 1 1 12486; 65412 1 1 12488; 65413 6 1 12490; 65419 1 1 12498; 65420 1 1 12501",
    "65421 1 1 12504; 65422 1 1 12507; 65423 5 1 12510; 65428 1 1 12516; 65429 1 1 12518",
    "65430 6 1 12520; 65436 1 1 12527; 65437 1 1 12531; 65438 2 1 12441; 65440 1 1 4448",
    "65441 2 1 4352; 65443 1 1 4522; 65444 1 1 4354; 65445 2 1 4524; 65447 3 1 4355",
    "65450 6 1 4528; 65456 1 1 4378; 65457 3 1 4358; 65460 1 1 4385; 65461 10 1 4361",
    "65474 6 1 4449; 65482 6 1 4455; 65490 6 1 4461; 65498 3 1 4467; 67457 2 1 720",
    "67459 1 1 230; 67460 1 1 665; 67461 1 1 595; 67463 1 1 675; 67464 1 1 43878",
    "67465 1 1 677; 67466 1 1 676; 67467 2 1 598; 67469 1 1 7569; 67470 1 1 600",
    "67471 1 1 606; 67472 1 1 681; 67473 1 1 612; 67474 1 1 610; 67475 1 1 608; 67476 1 1 667",
    "67477 1 1 295; 67478 1 1 668; 67479 1 1 615; 67480 1 1 644; 67481 2 1 682; 67483 1 1 620",
    "67484 1 1 122628; 67485 1 1 42894; 67486 1 1 622; 67487 1 1 122629; 67488 1 1 654",
    "67489 1 1 122630; 67490 1 1 248; 67491 2 1 630; 67493 1 1 113; 67494 1 1 634",
    "67495 1 1 122632; 67496 2 1 637; 67498 1 1 640; 67499 1 1 680; 67500 1 1 678",
    "67501 1 1 43879; 67502 1 1 679; 67503 1 1 648; 67504 1 1 11377; 67506 1 1 655",
    "67507 2 1 673; 67509 1 1 664; 67510 3 1 448; 67513 1 1 122634; 67514 1 1 122654",
    "119808 26 1 65; 119834 26 1 97; 119860 26 1 65; 119886 7 1 97; 119894 18 1 105",
    "119912 26 1 65; 119938 26 1 97; 119964 2 2 65; 119967 1 1 68; 119970 1 1 71",
    "119973 2 1 74; 119977 4 1 78; 119982 8 1 83; 119990 4 1 97; 119995 2 2 102",
    "119998 6 1 105; 120005 11 1 112; 120016 26 1 65; 120042 26 1 97; 120068 2 1 65",
    "120071 4 1 68; 120077 8 1 74; 120086 7 1 83; 120094 26 1 97; 120120 2 1 65",
    "120123 4 1 68; 120128 5 1 73; 120134 1 1 79; 120138 7 1 83; 120146 26 1 97",
    "120172 26 1 65; 120198 26 1 97; 120224 26 1 65; 120250 26 1 97; 120276 26 1 65",
    "120302 26 1 97; 120328 26 1 65; 120354 26 1 97; 120380 26 1 65; 120406 26 1 97",
    "120432 26 1 65; 120458 26 1 97; 120484 1 1 305; 120485 1 1 567; 120488 17 1 913",
    "120505 1 1 920; 120506 7 1 931; 120514 25 1 945; 120540 1 1 949; 120541 1 1 952",
    "120542 1 1 954; 120543 1 1 966; 120544 1 1 961; 120545 1 1 960; 120546 17 1 913",
    "120563 1 1 920; 120564 7 1 931; 120572 25 1 945; 120598 1 1 949; 120599 1 1 952",
    "120600 1 1 954; 120601 1 1 966; 120602 1 1 961; 120603 1 1 960; 120604 17 1 913",
    "120621 1 1 920; 120622 7 1 931; 120630 25 1 945; 120656 1 1 949; 120657 1 1 952",
    "120658 1 1 954; 120659 1 1 966; 120660 1 1 961; 120661 1 1 960; 120662 17 1 913",
    "120679 1 1 920; 120680 7 1 931; 120688 25 1 945; 120714 1 1 949; 120715 1 1 952",
    "120716 1 1 954; 120717 1 1 966; 120718 1 1 961; 120719 1 1 960; 120720 17 1 913",
    "120737 1 1 920; 120738 7 1 931; 120746 25 1 945; 120772 1 1 949; 120773 1 1 952",
    "120774 1 1 954; 120775 1 1 966; 120776 1 1 961; 120777 1 1 960; 120778 2 1 988",
    "120782 10 1 48; 120792 10 1 48; 120802 10 1 48; 120812 10 1 48; 120822 10 1 48",
    "126464 2 1 1575; 126466 1 1 1580; 126467 1 1 1583; 126469 1 1 1608; 126470 1 1 1586",
    "126471 1 1 1581; 126472 1 1 1591; 126473 1 1 1610; 126474 4 1 1603; 126478 1 1 1587",
    "126479 1 1 1593; 126480 1 1 1601; 126481 1 1 1589; 126482 1 1 1602; 126483 1 1 1585",
    "126484 1 1 1588; 126485 2 1 1578; 126487 1 1 1582; 126488 1 1 1584; 126489 1 1 1590",
    "126490 1 1 1592; 126491 1 1 1594; 126492 1 1 1646; 126493 1 1 1722; 126494 1 1 1697",
    "126495 1 1 1647; 126497 1 1 1576; 126498 1 1 1580; 126500 1 1 1607; 126503 1 1 1581",
    "126505 1 1 1610; 126506 4 1 1603; 126510 1 1 1587; 126511 1 1 1593; 126512 1 1 1601",
    "126513 1 1 1589; 126514 1 1 1602; 126516 1 1 1588; 126517 2 1 1578; 126519 1 1 1582",
    "126521 1 1 1590; 126523 1 1 1594; 126530 1 1 1580; 126535 1 1 1581; 126537 1 1 1610",
    "126539 2 2 1604; 126542 1 1 1587; 126543 1 1 1593; 126545 1 1 1589; 126546 1 1 1602",
    "126548 1 1 1588; 126551 1 1 1582; 126553 1 1 1590; 126555 1 1 1594; 126557 1 1 1722",
    "126559 1 1 1647; 126561 1 1 1576; 126562 1 1 1580; 126564 1 1 1607; 126567 1 1 1581",
    "126568 1 1 1591; 126569 1 1 1610; 126570 2 2 1603; 126573 1 1 1606; 126574 1 1 1587",
    "126575 1 1 1593; 126576 1 1 1601; 126577 1 1 1589; 126578 1 1 1602; 126580 1 1 1588",
    "126581 2 1 1578; 126583 1 1 1582; 126585 1 1 1590; 126586 1 1 1592; 126587 1 1 1594",
    "126588 1 1 1646; 126590 1 1 1697; 126592 2 1 1575; 126594 1 1 1580; 126595 1 1 1583",
    "126596 2 1 1607; 126598 1 1 1586; 126599 1 1 1581; 126600 1 1 1591; 126601 1 1 1610",
    "126603 3 1 1604; 126606 1 1 1587; 126607 1 1 1593; 126608 1 1 1601; 126609 1 1 1589",
    "126610 1 1 1602; 126611 1 1 1585; 126612 1 1 1588; 126613 2 1 1578; 126615 1 1 1582",
    "126616 1 1 1584; 126617 1 1 1590; 126618 1 1 1592; 126619 1 1 1594; 126625 1 1 1576",
    "126626 1 1 1580; 126627 1 1 1583; 126629 1 1 1608; 126630 1 1 1586; 126631 1 1 1581",
    "126632 1 1 1591; 126633 1 1 1610; 126635 3 1 1604; 126638 1 1 1587; 126639 1 1 1593",
    "126640 1 1 1601; 126641 1 1 1589; 126642 1 1 1602; 126643 1 1 1585; 126644 1 1 1588",
    "126645 2 1 1578; 126647 1 1 1582; 126648 1 1 1584; 126649 1 1 1590; 126650 1 1 1592",
    "126651 1 1 1594; 130032 10 1 48; 194560 1 1 20029; 194561 1 1 20024; 194562 1 1 20033",
    "194563 1 1 131362; 194564 1 1 20320; 194565 1 1 20398; 194566 1 1 20411",
    "194567 1 1 20482; 194568 1 1 20602; 194569 1 1 20633; 194570 1 1 20711; 194571 1 1 20687",
    "194572 1 1 13470; 194573 1 1 132666; 194574 1 1 20813; 194575 1 1 20820",
    "194576 1 1 20836; 194577 1 1 20855; 194578 1 1 132380; 194579 1 1 13497",
    "194580 1 1 20839; 194581 1 1 20877; 194582 1 1 132427; 194583 1 1 20887",
    "194584 1 1 20900; 194585 1 1 20172; 194586 1 1 20908; 194587 1 1 20917",
    "194588 1 1 168415; 194589 1 1 20981; 194590 1 1 20995; 194591 1 1 13535",
    "194592 1 1 21051; 194593 1 1 21062; 194594 1 1 21106; 194595 1 1 21111; 194596 1 1 13589",
    "194597 1 1 21191; 194598 1 1 21193; 194599 1 1 21220; 194600 1 1 21242; 194601 2 1 21253",
    "194603 1 1 21271; 194604 1 1 21321; 194605 1 1 21329; 194606 1 1 21338; 194607 1 1 21363",
    "194608 1 1 21373; 194609 1 1 21375; 194610 1 1 21375; 194611 1 1 21375",
    "194612 1 1 133676; 194613 1 1 28784; 194614 1 1 21450; 194615 1 1 21471",
    "194616 1 1 133987; 194617 1 1 21483; 194618 1 1 21489; 194619 1 1 21510",
    "194620 1 1 21662; 194621 1 1 21560; 194622 1 1 21576; 194623 1 1 21608; 194624 1 1 21666",
    "194625 1 1 21750; 194626 1 1 21776; 194627 1 1 21843; 194628 1 1 21859; 194629 1 1 21892",
    "194630 1 1 21892; 194631 1 1 21913; 194632 1 1 21931; 194633 1 1 21939; 194634 1 1 21954",
    "194635 1 1 22294; 194636 1 1 22022; 194637 1 1 22295; 194638 1 1 22097; 194639 1 1 22132",
    "194640 1 1 20999; 194641 1 1 22766; 194642 1 1 22478; 194643 1 1 22516; 194644 1 1 22541",
    "194645 1 1 22411; 194646 1 1 22578; 194647 1 1 22577; 194648 1 1 22700",
    "194649 1 1 136420; 194650 1 1 22770; 194651 1 1 22775; 194652 1 1 22790",
    "194653 1 1 22810; 194654 1 1 22818; 194655 1 1 22882; 194656 1 1 136872",
    "194657 1 1 136938; 194658 1 1 23020; 194659 1 1 23067; 194660 1 1 23079",
    "194661 1 1 23000; 194662 1 1 23142; 194663 1 1 14062; 194664 1 1 14076; 194665 1 1 23304",
    "194666 1 1 23358; 194667 1 1 23358; 194668 1 1 137672; 194669 1 1 23491",
    "194670 1 1 23512; 194671 1 1 23527; 194672 1 1 23539; 194673 1 1 138008",
    "194674 1 1 23551; 194675 1 1 23558; 194676 1 1 24403; 194677 1 1 23586; 194678 1 1 14209",
    "194679 1 1 23648; 194680 1 1 23662; 194681 1 1 23744; 194682 1 1 23693",
    "194683 1 1 138724; 194684 1 1 23875; 194685 1 1 138726; 194686 1 1 23918",
    "194687 1 1 23915; 194688 1 1 23932; 194689 2 1 24033; 194691 1 1 14383; 194692 1 1 24061",
    "194693 1 1 24104; 194694 1 1 24125; 194695 1 1 24169; 194696 1 1 14434",
    "194697 1 1 139651; 194698 1 1 14460; 194699 1 1 24240; 194700 1 1 24243",
    "194701 1 1 24246; 194702 1 1 24266; 194703 1 1 172946; 194704 1 1 24318",
    "194705 1 1 140081; 194706 1 1 140081; 194707 1 1 33281; 194708 1 1 24354",
    "194709 1 1 24354; 194710 1 1 14535; 194711 1 1 144056; 194712 1 1 156122",
    "194713 1 1 24418; 194714 1 1 24427; 194715 1 1 14563; 194716 1 1 24474; 194717 1 1 24525",
    "194718 1 1 24535; 194719 1 1 24569; 194720 1 1 24705; 194721 1 1 14650; 194722 1 1 14620",
    "194723 1 1 24724; 194724 1 1 141012; 194725 1 1 24775; 194726 1 1 24904",
    "194727 1 1 24908; 194728 1 1 24910; 194729 1 1 24908; 194730 1 1 24954; 194731 1 1 24974",
    "194732 1 1 25010; 194733 1 1 24996; 194734 1 1 25007; 194735 1 1 25054; 194736 1 1 25074",
    "194737 1 1 25078; 194738 1 1 25104; 194739 1 1 25115; 194740 1 1 25181; 194741 1 1 25265",
    "194742 1 1 25300; 194743 1 1 25424; 194744 1 1 142092; 194745 1 1 25405",
    "194746 1 1 25340; 194747 1 1 25448; 194748 1 1 25475; 194749 1 1 25572",
    "194750 1 1 142321; 194751 1 1 25634; 194752 1 1 25541; 194753 1 1 25513",
    "194754 1 1 14894; 194755 1 1 25705; 194756 1 1 25726; 194757 1 1 25757; 194758 1 1 25719",
    "194759 1 1 14956; 194760 1 1 25935; 194761 1 1 25964; 194762 1 1 143370",
    "194763 1 1 26083; 194764 1 1 26360; 194765 1 1 26185; 194766 1 1 15129; 194767 1 1 26257",
    "194768 1 1 15112; 194769 1 1 15076; 194770 1 1 20882; 194771 1 1 20885; 194772 1 1 26368",
    "194773 1 1 26268; 194774 1 1 32941; 194775 1 1 17369; 194776 1 1 26391; 194777 1 1 26395",
    "194778 1 1 26401; 194779 1 1 26462; 194780 1 1 26451; 194781 1 1 144323",
    "194782 1 1 15177; 194783 1 1 26618; 194784 1 1 26501; 194785 1 1 26706; 194786 1 1 26757",
    "194787 1 1 144493; 194788 1 1 26766; 194789 1 1 26655; 194790 1 1 26900",
    "194791 1 1 15261; 194792 1 1 26946; 194793 1 1 27043; 194794 1 1 27114; 194795 1 1 27304",
    "194796 1 1 145059; 194797 1 1 27355; 194798 1 1 15384; 194799 1 1 27425",
    "194800 1 1 145575; 194801 1 1 27476; 194802 1 1 15438; 194803 1 1 27506",
    "194804 1 1 27551; 194805 2 1 27578; 194807 1 1 146061; 194808 1 1 138507",
    "194809 1 1 146170; 194810 1 1 27726; 194811 1 1 146620; 194812 1 1 27839",
    "194813 1 1 27853; 194814 1 1 27751; 194815 1 1 27926; 194816 1 1 27966; 194817 1 1 28023",
    "194818 1 1 27969; 194819 1 1 28009; 194820 1 1 28024; 194821 1 1 28037",
    "194822 1 1 146718; 194823 1 1 27956; 194824 1 1 28207; 194825 1 1 28270",
    "194826 1 1 15667; 194827 1 1 28363; 194828 1 1 28359; 194829 1 1 147153",
    "194830 1 1 28153; 194831 1 1 28526; 194832 1 1 147294; 194833 1 1 147342",
    "194834 1 1 28614; 194835 1 1 28729; 194836 1 1 28702; 194837 1 1 28699; 194838 1 1 15766",
    "194839 1 1 28746; 194840 1 1 28797; 194841 1 1 28791; 194842 1 1 28845",
    "194843 1 1 132389; 194844 1 1 28997; 194845 1 1 148067; 194846 1 1 29084",
    "194847 1 1 148395; 194848 1 1 29224; 194849 1 1 29237; 194850 1 1 29264",
    "194851 1 1 149000; 194852 1 1 29312; 194853 1 1 29333; 194854 1 1 149301",
    "194855 1 1 149524; 194856 1 1 29562; 194857 1 1 29579; 194858 1 1 16044",
    "194859 1 1 29605; 194860 1 1 16056; 194861 1 1 16056; 194862 1 1 29767; 194863 1 1 29788",
    "194864 1 1 29809; 194865 1 1 29829; 194866 1 1 29898; 194867 1 1 16155; 194868 1 1 29988",
    "194869 1 1 150582; 194870 1 1 30014; 194871 1 1 150674; 194872 1 1 30064",
    "194873 1 1 139679; 194874 1 1 30224; 194875 1 1 151457; 194876 1 1 151480",
    "194877 1 1 151620; 194878 1 1 16380; 194879 1 1 16392; 194880 1 1 30452",
    "194881 1 1 151795; 194882 1 1 151794; 194883 1 1 151833; 194884 1 1 151859",
    "194885 2 1 30494; 194887 1 1 30495; 194888 1 1 30538; 194889 1 1 16441; 194890 1 1 30603",
    "194891 1 1 16454; 194892 1 1 16534; 194893 1 1 152605; 194894 1 1 30798",
    "194895 1 1 30860; 194896 1 1 30924; 194897 1 1 16611; 194898 1 1 153126",
    "194899 1 1 31062; 194900 1 1 153242; 194901 1 1 153285; 194902 1 1 31119",
    "194903 1 1 31211; 194904 1 1 16687; 194905 1 1 31296; 194906 1 1 31306; 194907 1 1 31311",
    "194908 1 1 153980; 194909 1 1 154279; 194910 1 1 154279; 194911 1 1 31470",
    "194912 1 1 16898; 194913 1 1 154539; 194914 1 1 31686; 194915 1 1 31689",
    "194916 1 1 16935; 194917 1 1 154752; 194918 1 1 31954; 194919 1 1 17056",
    "194920 1 1 31976; 194921 1 1 31971; 194922 1 1 32000; 194923 1 1 155526",
    "194924 1 1 32099; 194925 1 1 17153; 194926 1 1 32199; 194927 1 1 32258; 194928 1 1 32325",
    "194929 1 1 17204; 194930 1 1 156200; 194931 1 1 156231; 194932 1 1 17241",
    "194933 1 1 156377; 194934 1 1 32634; 194935 1 1 156478; 194936 1 1 32661",
    "194937 1 1 32762; 194938 1 1 32773; 194939 1 1 156890; 194940 1 1 156963",
    "194941 1 1 32864; 194942 1 1 157096; 194943 1 1 32880; 194944 1 1 144223",
    "194945 1 1 17365; 194946 1 1 32946; 194947 1 1 33027; 194948 1 1 17419; 194949 1 1 33086",
    "194950 1 1 23221; 194951 1 1 157607; 194952 1 1 157621; 194953 1 1 144275",
    "194954 1 1 144284; 194955 1 1 33281; 194956 1 1 33284; 194957 1 1 36766",
    "194958 1 1 17515; 194959 1 1 33425; 194960 1 1 33419; 194961 1 1 33437; 194962 1 1 21171",
    "194963 1 1 33457; 194964 1 1 33459; 194965 1 1 33469; 194966 1 1 33510",
    "194967 1 1 158524; 194968 1 1 33509; 194969 1 1 33565; 194970 1 1 33635",
    "194971 1 1 33709; 194972 1 1 33571; 194973 1 1 33725; 194974 1 1 33767; 194975 1 1 33879",
    "194976 1 1 33619; 194977 1 1 33738; 194978 1 1 33740; 194979 1 1 33756",
    "194980 1 1 158774; 194981 1 1 159083; 194982 1 1 158933; 194983 1 1 17707",
    "194984 1 1 34033; 194985 1 1 34035; 194986 1 1 34070; 194987 1 1 160714",
    "194988 1 1 34148; 194989 1 1 159532; 194990 1 1 17757; 194991 1 1 17761",
    "194992 1 1 159665; 194993 1 1 159954; 194994 1 1 17771; 194995 1 1 34384",
    "194996 1 1 34396; 194997 1 1 34407; 194998 1 1 34409; 194999 1 1 34473; 195000 1 1 34440",
    "195001 1 1 34574; 195002 1 1 34530; 195003 1 1 34681; 195004 1 1 34600; 195005 1 1 34667",
    "195006 1 1 34694; 195007 1 1 17879; 195008 1 1 34785; 195009 1 1 34817; 195010 1 1 17913",
    "195011 1 1 34912; 195012 1 1 34915; 195013 1 1 161383; 195014 1 1 35031",
    "195015 1 1 35038; 195016 1 1 17973; 195017 1 1 35066; 195018 1 1 13499",
    "195019 1 1 161966; 195020 1 1 162150; 195021 1 1 18110; 195022 1 1 18119",
    "195023 1 1 35488; 195024 1 1 35565; 195025 1 1 35722; 195026 1 1 35925",
    "195027 1 1 162984; 195028 1 1 36011; 195029 1 1 36033; 195030 1 1 36123",
    "195031 1 1 36215; 195032 1 1 163631; 195033 1 1 133124; 195034 1 1 36299",
    "195035 1 1 36284; 195036 1 1 36336; 195037 1 1 133342; 195038 1 1 36564",
    "195039 1 1 36664; 195040 1 1 165330; 195041 1 1 165357; 195042 1 1 37012",
    "195043 1 1 37105; 195044 1 1 37137; 195045 1 1 165678; 195046 1 1 37147",
    "195047 1 1 37432; 195048 2 1 37591; 195050 1 1 37500; 195051 1 1 37881; 195052 1 1 37909",
    "195053 1 1 166906; 195054 1 1 38283; 195055 1 1 18837; 195056 1 1 38327",
    "195057 1 1 167287; 195058 1 1 18918; 195059 1 1 38595; 195060 1 1 23986",
    "195061 1 1 38691; 195062 1 1 168261; 195063 1 1 168474; 195064 1 1 19054",
    "195065 1 1 19062; 195066 1 1 38880; 195067 1 1 168970; 195068 1 1 19122",
    "195069 1 1 169110; 195070 1 1 38923; 195071 1 1 38923; 195072 1 1 38953",
    "195073 1 1 169398; 195074 1 1 39138; 195075 1 1 19251; 195076 1 1 39209",
    "195077 1 1 39335; 195078 1 1 39362; 195079 1 1 39422; 195080 1 1 19406",
    "195081 1 1 170800; 195082 1 1 39698; 195083 1 1 40000; 195084 1 1 40189",
    "195085 1 1 19662; 195086 1 1 19693; 195087 1 1 40295; 195088 1 1 172238",
    "195089 1 1 19704; 195090 1 1 172293; 195091 1 1 172558; 195092 1 1 172689",
    "195093 1 1 40635; 195094 1 1 19798; 195095 1 1 40697; 195096 1 1 40702; 195097 1 1 40709",
    "195098 1 1 40719; 195099 1 1 40726; 195100 1 1 40763; 195101 1 1 173568"]

/-- The characters that decompose into several characters, each first in its row. -/
private def longDecompositions : List (List Nat) :=
  Table.rows [
    "192 65 768; 193 65 769; 194 65 770; 195 65 771; 196 65 776; 197 65 778; 199 67 807",
    "200 69 768; 201 69 769; 202 69 770; 203 69 776; 204 73 768; 205 73 769; 206 73 770",
    "207 73 776; 209 78 771; 210 79 768; 211 79 769; 212 79 770; 213 79 771; 214 79 776",
    "217 85 768; 218 85 769; 219 85 770; 220 85 776; 221 89 769; 224 97 768; 225 97 769",
    "226 97 770; 227 97 771; 228 97 776; 229 97 778; 231 99 807; 232 101 768; 233 101 769",
    "234 101 770; 235 101 776; 236 105 768; 237 105 769; 238 105 770; 239 105 776",
    "241 110 771; 242 111 768; 243 111 769; 244 111 770; 245 111 771; 246 111 776",
    "249 117 768; 250 117 769; 251 117 770; 252 117 776; 253 121 769; 255 121 776; 256 65 772",
    "257 97 772; 258 65 774; 259 97 774; 260 65 808; 261 97 808; 262 67 769; 263 99 769",
    "264 67 770; 265 99 770; 266 67 775; 267 99 775; 268 67 780; 269 99 780; 270 68 780",
    "271 100 780; 274 69 772; 275 101 772; 276 69 774; 277 101 774; 278 69 775; 279 101 775",
    "280 69 808; 281 101 808; 282 69 780; 283 101 780; 284 71 770; 285 103 770; 286 71 774",
    "287 103 774; 288 71 775; 289 103 775; 290 71 807; 291 103 807; 292 72 770; 293 104 770",
    "296 73 771; 297 105 771; 298 73 772; 299 105 772; 300 73 774; 301 105 774; 302 73 808",
    "303 105 808; 304 73 775; 306 73 74; 307 105 106; 308 74 770; 309 106 770; 310 75 807",
    "311 107 807; 313 76 769; 314 108 769; 315 76 807; 316 108 807; 317 76 780; 318 108 780",
    "319 76 183; 320 108 183; 323 78 769; 324 110 769; 325 78 807; 326 110 807; 327 78 780",
    "328 110 780; 329 700 110; 332 79 772; 333 111 772; 334 79 774; 335 111 774; 336 79 779",
    "337 111 779; 340 82 769; 341 114 769; 342 82 807; 343 114 807; 344 82 780; 345 114 780",
    "346 83 769; 347 115 769; 348 83 770; 349 115 770; 350 83 807; 351 115 807; 352 83 780",
    "353 115 780; 354 84 807; 355 116 807; 356 84 780; 357 116 780; 360 85 771; 361 117 771",
    "362 85 772; 363 117 772; 364 85 774; 365 117 774; 366 85 778; 367 117 778; 368 85 779",
    "369 117 779; 370 85 808; 371 117 808; 372 87 770; 373 119 770; 374 89 770; 375 121 770",
    "376 89 776; 377 90 769; 378 122 769; 379 90 775; 380 122 775; 381 90 780; 382 122 780",
    "416 79 795; 417 111 795; 431 85 795; 432 117 795; 452 68 90 780; 453 68 122 780",
    "454 100 122 780; 455 76 74; 456 76 106; 457 108 106; 458 78 74; 459 78 106; 460 110 106",
    "461 65 780; 462 97 780; 463 73 780; 464 105 780; 465 79 780; 466 111 780; 467 85 780",
    "468 117 780; 469 85 776 772; 470 117 776 772; 471 85 776 769; 472 117 776 769",
    "473 85 776 780; 474 117 776 780; 475 85 776 768; 476 117 776 768; 478 65 776 772",
    "479 97 776 772; 480 65 775 772; 481 97 775 772; 482 198 772; 483 230 772; 486 71 780",
    "487 103 780; 488 75 780; 489 107 780; 490 79 808; 491 111 808; 492 79 808 772",
    "493 111 808 772; 494 439 780; 495 658 780; 496 106 780; 497 68 90; 498 68 122",
    "499 100 122; 500 71 769; 501 103 769; 504 78 768; 505 110 768; 506 65 778 769",
    "507 97 778 769; 508 198 769; 509 230 769; 510 216 769; 511 248 769; 512 65 783",
    "513 97 783; 514 65 785; 515 97 785; 516 69 783; 517 101 783; 518 69 785; 519 101 785",
    "520 73 783; 521 105 783; 522 73 785; 523 105 785; 524 79 783; 525 111 783; 526 79 785",
    "527 111 785; 528 82 783; 529 114 783; 530 82 785; 531 114 785; 532 85 783; 533 117 783",
    "534 85 785; 535 117 785; 536 83 806; 537 115 806; 538 84 806; 539 116 806; 542 72 780",
    "543 104 780; 550 65 775; 551 97 775; 552 69 807; 553 101 807; 554 79 776 772",
    "555 111 776 772; 556 79 771 772; 557 111 771 772; 558 79 775; 559 111 775",
    "560 79 775 772; 561 111 775 772; 562 89 772; 563 121 772; 836 776 769; 902 913 769",
    "904 917 769; 905 919 769; 906 921 769; 908 927 769; 910 933 769; 911 937 769",
    "912 953 776 769; 938 921 776; 939 933 776; 940 945 769; 941 949 769; 942 951 769",
    "943 953 769; 944 965 776 769; 970 953 776; 971 965 776; 972 959 769; 973 965 769",
    "974 969 769; 979 933 769; 980 933 776; 1024 1045 768; 1025 1045 776; 1027 1043 769",
    "1031 1030 776; 1036 1050 769; 1037 1048 768; 1038 1059 774; 1049 1048 774; 1081 1080 774",
    "1104 1077 768; 1105 1077 776; 1107 1075 769; 1111 1110 776; 1116 1082 769; 1117 1080 768",
    "1118 1091 774; 1142 1140 783; 1143 1141 783; 1217 1046 774; 1218 1078 774; 1232 1040 774",
    "1233 1072 774; 1234 1040 776; 1235 1072 776; 1238 1045 774; 1239 1077 774; 1242 1240 776",
    "1243 1241 776; 1244 1046 776; 1245 1078 776; 1246 1047 776; 1247 1079 776; 1250 1048 772",
    "1251 1080 772; 1252 1048 776; 1253 1080 776; 1254 1054 776; 1255 1086 776; 1258 1256 776",
    "1259 1257 776; 1260 1069 776; 1261 1101 776; 1262 1059 772; 1263 1091 772; 1264 1059 776",
    "1265 1091 776; 1266 1059 779; 1267 1091 779; 1268 1063 776; 1269 1095 776; 1272 1067 776",
    "1273 1099 776; 1415 1381 1410; 1570 1575 1619; 1571 1575 1620; 1572 1608 1620",
    "1573 1575 1621; 1574 1610 1620; 1653 1575 1652; 1654 1608 1652; 1655 1735 1652",
    "1656 1610 1652; 1728 1749 1620; 1730 1729 1620; 1747 1746 1620; 2345 2344 2364",
    "2353 2352 2364; 2356 2355 2364; 2392 2325 2364; 2393 2326 2364; 2394 2327 2364",
    "2395 2332 2364; 2396 2337 2364; 2397 2338 2364; 2398 2347 2364; 2399 2351 2364",
    "2507 2503 2494; 2508 2503 2519; 2524 2465 2492; 2525 2466 2492; 2527 2479 2492",
    "2611 2610 2620; 2614 2616 2620; 2649 2582 2620; 2650 2583 2620; 2651 2588 2620",
    "2654 2603 2620; 2888 2887 2902; 2891 2887 2878; 2892 2887 2903; 2908 2849 2876",
    "2909 2850 2876; 2964 2962 3031; 3018 3014 3006; 3019 3015 3006; 3020 3014 3031",
    "3144 3142 3158; 3264 3263 3285; 3271 3270 3285; 3272 3270 3286; 3274 3270 3266",
    "3275 3270 3266 3285; 3402 3398 3390; 3403 3399 3390; 3404 3398 3415; 3546 3545 3530",
    "3548 3545 3535; 3549 3545 3535 3530; 3550 3545 3551; 3635 3661 3634; 3763 3789 3762",
    "3804 3755 3737; 3805 3755 3745; 3907 3906 4023; 3917 3916 4023; 3922 3921 4023",
    "3927 3926 4023; 3932 3931 4023; 3945 3904 4021; 3955 3953 3954; 3957 3953 3956",
    "3958 4018 3968; 3959 4018 3953 3968; 3960 4019 3968; 3961 4019 3953 3968; 3969 3953 3968",
    "3987 3986 4023; 3997 3996 4023; 4002 4001 4023; 4007 4006 4023; 4012 4011 4023",
    "4025 3984 4021; 4134 4133 4142; 6918 6917 6965; 6920 6919 6965; 6922 6921 6965",
    "6924 6923 6965; 6926 6925 6965; 6930 6929 6965; 6971 6970 6965; 6973 6972 6965",
    "6976 6974 6965; 6977 6975 6965; 6979 6978 6965; 7680 65 805; 7681 97 805; 7682 66 775",
    "7683 98 775; 7684 66 803; 7685 98 803; 7686 66 817; 7687 98 817; 7688 67 807 769",
    "7689 99 807 769; 7690 68 775; 7691 100 775; 7692 68 803; 7693 100 803; 7694 68 817",
    "7695 100 817; 7696 68 807; 7697 100 807; 7698 68 813; 7699 100 813; 7700 69 772 768",
    "7701 101 772 768; 7702 69 772 769; 7703 101 772 769; 7704 69 813; 7705 101 813",
    "7706 69 816; 7707 101 816; 7708 69 807 774; 7709 101 807 774; 7710 70 775; 7711 102 775",
    "7712 71 772; 7713 103 772; 7714 72 775; 7715 104 775; 7716 72 803; 7717 104 803",
    "7718 72 776; 7719 104 776; 7720 72 807; 7721 104 807; 7722 72 814; 7723 104 814",
    "7724 73 816; 7725 105 816; 7726 73 776 769; 7727 105 776 769; 7728 75 769; 7729 107 769",
    "7730 75 803; 7731 107 803; 7732 75 817; 7733 107 817; 7734 76 803; 7735 108 803",
    "7736 76 803 772; 7737 108 803 772; 7738 76 817; 7739 108 817; 7740 76 813; 7741 108 813",
    "7742 77 769; 7743 109 769; 7744 77 775; 7745 109 775; 7746 77 803; 7747 109 803",
    "7748 78 775; 7749 110 775; 7750 78 803; 7751 110 803; 7752 78 817; 7753 110 817",
    "7754 78 813; 7755 110 813; 7756 79 771 769; 7757 111 771 769; 7758 79 771 776",
    "7759 111 771 776; 7760 79 772 768; 7761 111 772 768; 7762 79 772 769; 7763 111 772 769",
    "7764 80 769; 7765 112 769; 7766 80 775; 7767 112 775; 7768 82 775; 7769 114 775",
    "7770 82 803; 7771 114 803; 7772 82 803 772; 7773 114 803 772; 7774 82 817; 7775 114 817",
    "7776 83 775; 7777 115 775; 7778 83 803; 7779 115 803; 7780 83 769 775; 7781 115 769 775",
    "7782 83 780 775; 7783 115 780 775; 7784 83 803 775; 7785 115 803 775; 7786 84 775",
    "7787 116 775; 7788 84 803; 7789 116 803; 7790 84 817; 7791 116 817; 7792 84 813",
    "7793 116 813; 7794 85 804; 7795 117 804; 7796 85 816; 7797 117 816; 7798 85 813",
    "7799 117 813; 7800 85 771 769; 7801 117 771 769; 7802 85 772 776; 7803 117 772 776",
    "7804 86 771; 7805 118 771; 7806 86 803; 7807 118 803; 7808 87 768; 7809 119 768",
    "7810 87 769; 7811 119 769; 7812 87 776; 7813 119 776; 7814 87 775; 7815 119 775",
    "7816 87 803; 7817 119 803; 7818 88 775; 7819 120 775; 7820 88 776; 7821 120 776",
    "7822 89 775; 7823 121 775; 7824 90 770; 7825 122 770; 7826 90 803; 7827 122 803",
    "7828 90 817; 7829 122 817; 7830 104 817; 7831 116 776; 7832 119 778; 7833 121 778",
    "7834 97 702; 7835 115 775; 7840 65 803; 7841 97 803; 7842 65 777; 7843 97 777",
    "7844 65 770 769; 7845 97 770 769; 7846 65 770 768; 7847 97 770 768; 7848 65 770 777",
    "7849 97 770 777; 7850 65 770 771; 7851 97 770 771; 7852 65 803 770; 7853 97 803 770",
    "7854 65 774 769; 7855 97 774 769; 7856 65 774 768; 7857 97 774 768; 7858 65 774 777",
    "7859 97 774 777; 7860 65 774 771; 7861 97 774 771; 7862 65 803 774; 7863 97 803 774",
    "7864 69 803; 7865 101 803; 7866 69 777; 7867 101 777; 7868 69 771; 7869 101 771",
    "7870 69 770 769; 7871 101 770 769; 7872 69 770 768; 7873 101 770 768; 7874 69 770 777",
    "7875 101 770 777; 7876 69 770 771; 7877 101 770 771; 7878 69 803 770; 7879 101 803 770",
    "7880 73 777; 7881 105 777; 7882 73 803; 7883 105 803; 7884 79 803; 7885 111 803",
    "7886 79 777; 7887 111 777; 7888 79 770 769; 7889 111 770 769; 7890 79 770 768",
    "7891 111 770 768; 7892 79 770 777; 7893 111 770 777; 7894 79 770 771; 7895 111 770 771",
    "7896 79 803 770; 7897 111 803 770; 7898 79 795 769; 7899 111 795 769; 7900 79 795 768",
    "7901 111 795 768; 7902 79 795 777; 7903 111 795 777; 7904 79 795 771; 7905 111 795 771",
    "7906 79 795 803; 7907 111 795 803; 7908 85 803; 7909 117 803; 7910 85 777; 7911 117 777",
    "7912 85 795 769; 7913 117 795 769; 7914 85 795 768; 7915 117 795 768; 7916 85 795 777",
    "7917 117 795 777; 7918 85 795 771; 7919 117 795 771; 7920 85 795 803; 7921 117 795 803",
    "7922 89 768; 7923 121 768; 7924 89 803; 7925 121 803; 7926 89 777; 7927 121 777",
    "7928 89 771; 7929 121 771; 7936 945 787; 7937 945 788; 7938 945 787 768",
    "7939 945 788 768; 7940 945 787 769; 7941 945 788 769; 7942 945 787 834; 7943 945 788 834",
    "7944 913 787; 7945 913 788; 7946 913 787 768; 7947 913 788 768; 7948 913 787 769",
    "7949 913 788 769; 7950 913 787 834; 7951 913 788 834; 7952 949 787; 7953 949 788",
    "7954 949 787 768; 7955 949 788 768; 7956 949 787 769; 7957 949 788 769; 7960 917 787",
    "7961 917 788; 7962 917 787 768; 7963 917 788 768; 7964 917 787 769; 7965 917 788 769",
    "7968 951 787; 7969 951 788; 7970 951 787 768; 7971 951 788 768; 7972 951 787 769",
    "7973 951 788 769; 7974 951 787 834; 7975 951 788 834; 7976 919 787; 7977 919 788",
    "7978 919 787 768; 7979 919 788 768; 7980 919 787 769; 7981 919 788 769; 7982 919 787 834",
    "7983 919 788 834; 7984 953 787; 7985 953 788; 7986 953 787 768; 7987 953 788 768",
    "7988 953 787 769; 7989 953 788 769; 7990 953 787 834; 7991 953 788 834; 7992 921 787",
    "7993 921 788; 7994 921 787 768; 7995 921 788 768; 7996 921 787 769; 7997 921 788 769",
    "7998 921 787 834; 7999 921 788 834; 8000 959 787; 8001 959 788; 8002 959 787 768",
    "8003 959 788 768; 8004 959 787 769; 8005 959 788 769; 8008 927 787; 8009 927 788",
    "8010 927 787 768; 8011 927 788 768; 8012 927 787 769; 8013 927 788 769; 8016 965 787",
    "8017 965 788; 8018 965 787 768; 8019 965 788 768; 8020 965 787 769; 8021 965 788 769",
    "8022 965 787 834; 8023 965 788 834; 8025 933 788; 8027 933 788 768; 8029 933 788 769",
    "8031 933 788 834; 8032 969 787; 8033 969 788; 8034 969 787 768; 8035 969 788 768",
    "8036 969 787 769; 8037 969 788 769; 8038 969 787 834; 8039 969 788 834; 8040 937 787",
    "8041 937 788; 8042 937 787 768; 8043 937 788 768; 8044 937 787 769; 8045 937 788 769",
    "8046 937 787 834; 8047 937 788 834; 8048 945 768; 8049 945 769; 8050 949 768",
    "8051 949 769; 8052 951 768; 8053 951 769; 8054 953 768; 8055 953 769; 8056 959 768",
    "8057 959 769; 8058 965 768; 8059 965 769; 8060 969 768; 8061 969 769; 8064 945 787 837",
    "8065 945 788 837; 8066 945 787 768 837; 8067 945 788 768 837; 8068 945 787 769 837",
    "8069 945 788 769 837; 8070 945 787 834 837; 8071 945 788 834 837; 8072 913 787 837",
    "8073 913 788 837; 8074 913 787 768 837; 8075 913 788 768 837; 8076 913 787 769 837",
    "8077 913 788 769 837; 8078 913 787 834 837; 8079 913 788 834 837; 8080 951 787 837",
    "8081 951 788 837; 8082 951 787 768 837; 8083 951 788 768 837; 8084 951 787 769 837",
    "8085 951 788 769 837; 8086 951 787 834 837; 8087 951 788 834 837; 8088 919 787 837",
    "8089 919 788 837; 8090 919 787 768 837; 8091 919 788 768 837; 8092 919 787 769 837",
    "8093 919 788 769 837; 8094 919 787 834 837; 8095 919 788 834 837; 8096 969 787 837",
    "8097 969 788 837; 8098 969 787 768 837; 8099 969 788 768 837; 8100 969 787 769 837",
    "8101 969 788 769 837; 8102 969 787 834 837; 8103 969 788 834 837; 8104 937 787 837",
    "8105 937 788 837; 8106 937 787 768 837; 8107 937 788 768 837; 8108 937 787 769 837",
    "8109 937 788 769 837; 8110 937 787 834 837; 8111 937 788 834 837; 8112 945 774",
    "8113 945 772; 8114 945 768 837; 8115 945 837; 8116 945 769 837; 8118 945 834",
    "8119 945 834 837; 8120 913 774; 8121 913 772; 8122 913 768; 8123 913 769; 8124 913 837",
    "8130 951 768 837; 8131 951 837; 8132 951 769 837; 8134 951 834; 8135 951 834 837",
    "8136 917 768; 8137 917 769; 8138 919 768; 8139 919 769; 8140 919 837; 8144 953 774",
    "8145 953 772; 8146 953 776 768; 8147 953 776 769; 8150 953 834; 8151 953 776 834",
    "8152 921 774; 8153 921 772; 8154 921 768; 8155 921 769; 8160 965 774; 8161 965 772",
    "8162 965 776 768; 8163 965 776 769; 8164 961 787; 8165 961 788; 8166 965 834",
    "8167 965 776 834; 8168 933 774; 8169 933 772; 8170 933 768; 8171 933 769; 8172 929 788",
    "8178 969 768 837; 8179 969 837; 8180 969 769 837; 8182 969 834; 8183 969 834 837",
    "8184 927 768; 8185 927 769; 8186 937 768; 8187 937 769; 8188 937 837; 8491 65 778",
    "8545 73 73; 8546 73 73 73; 8547 73 86; 8549 86 73; 8550 86 73 73; 8551 86 73 73 73",
    "8552 73 88; 8554 88 73; 8555 88 73 73; 8561 105 105; 8562 105 105 105; 8563 105 118",
    "8565 118 105; 8566 118 105 105; 8567 118 105 105 105; 8568 105 120; 8570 120 105",
    "8571 120 105 105; 12364 12363 12441; 12366 12365 12441; 12368 12367 12441",
    "12370 12369 12441; 12372 12371 12441; 12374 12373 12441; 12376 12375 12441",
    "12378 12377 12441; 12380 12379 12441; 12382 12381 12441; 12384 12383 12441",
    "12386 12385 12441; 12389 12388 12441; 12391 12390 12441; 12393 12392 12441",
    "12400 12399 12441; 12401 12399 12442; 12403 12402 12441; 12404 12402 12442",
    "12406 12405 12441; 12407 12405 12442; 12409 12408 12441; 12410 12408 12442",
    "12412 12411 12441; 12413 12411 12442; 12436 12358 12441; 12446 12445 12441",
    "12447 12424 12426; 12460 12459 12441; 12462 12461 12441; 12464 12463 12441",
    "12466 12465 12441; 12468 12467 12441; 12470 12469 12441; 12472 12471 12441",
    "12474 12473 12441; 12476 12475 12441; 12478 12477 12441; 12480 12479 12441",
    "12482 12481 12441; 12485 12484 12441; 12487 12486 12441; 12489 12488 12441",
    "12496 12495 12441; 12497 12495 12442; 12499 12498 12441; 12500 12498 12442",
    "12502 12501 12441; 12503 12501 12442; 12505 12504 12441; 12506 12504 12442",
    "12508 12507 12441; 12509 12507 12442; 12532 12454 12441; 12535 12527 12441",
    "12536 12528 12441; 12537 12529 12441; 12538 12530 12441; 12542 12541 12441",
    "12543 12467 12488; 64256 102 102; 64257 102 105; 64258 102 108; 64259 102 102 105",
    "64260 102 102 108; 64261 115 116; 64262 115 116; 64275 1396 1398; 64276 1396 1381",
    "64277 1396 1387; 64278 1406 1398; 64279 1396 1389; 64285 1497 1460; 64287 1522 1463",
    "64298 1513 1473; 64299 1513 1474; 64300 1513 1468 1473; 64301 1513 1468 1474",
    "64302 1488 1463; 64303 1488 1464; 64304 1488 1468; 64305 1489 1468; 64306 1490 1468",
    "64307 1491 1468; 64308 1492 1468; 64309 1493 1468; 64310 1494 1468; 64312 1496 1468",
    "64313 1497 1468; 64314 1498 1468; 64315 1499 1468; 64316 1500 1468; 64318 1502 1468",
    "64320 1504 1468; 64321 1505 1468; 64323 1507 1468; 64324 1508 1468; 64326 1510 1468",
    "64327 1511 1468; 64328 1512 1468; 64329 1513 1468; 64330 1514 1468; 64331 1493 1465",
    "64332 1489 1471; 64333 1499 1471; 64334 1508 1471; 64335 1488 1500; 64420 1749 1620",
    "64421 1749 1620; 64432 1746 1620; 64433 1746 1620; 64477 1735 1652; 64490 1610 1620 1575",
    "64491 1610 1620 1575; 64492 1610 1620 1749; 64493 1610 1620 1749; 64494 1610 1620 1608",
    "64495 1610 1620 1608; 64496 1610 1620 1735; 64497 1610 1620 1735; 64498 1610 1620 1734",
    "64499 1610 1620 1734; 64500 1610 1620 1736; 64501 1610 1620 1736; 64502 1610 1620 1744",
    "64503 1610 1620 1744; 64504 1610 1620 1744; 64505 1610 1620 1609; 64506 1610 1620 1609",
    "64507 1610 1620 1609; 64512 1610 1620 1580; 64513 1610 1620 1581; 64514 1610 1620 1605",
    "64515 1610 1620 1609; 64516 1610 1620 1610; 64517 1576 1580; 64518 1576 1581",
    "64519 1576 1582; 64520 1576 1605; 64521 1576 1609; 64522 1576 1610; 64523 1578 1580",
    "64524 1578 1581; 64525 1578 1582; 64526 1578 1605; 64527 1578 1609; 64528 1578 1610",
    "64529 1579 1580; 64530 1579 1605; 64531 1579 1609; 64532 1579 1610; 64533 1580 1581",
    "64534 1580 1605; 64535 1581 1580; 64536 1581 1605; 64537 1582 1580; 64538 1582 1581",
    "64539 1582 1605; 64540 1587 1580; 64541 1587 1581; 64542 1587 1582; 64543 1587 1605",
    "64544 1589 1581; 64545 1589 1605; 64546 1590 1580; 64547 1590 1581; 64548 1590 1582",
    "64549 1590 1605; 64550 1591 1581; 64551 1591 1605; 64552 1592 1605; 64553 1593 1580",
    "64554 1593 1605; 64555 1594 1580; 64556 1594 1605; 64557 1601 1580; 64558 1601 1581",
    "64559 1601 1582; 64560 1601 1605; 64561 1601 1609; 64562 1601 1610; 64563 1602 1581",
    "64564 1602 1605; 64565 1602 1609; 64566 1602 1610; 64567 1603 1575; 64568 1603 1580",
    "64569 1603 1581; 64570 1603 1582; 64571 1603 1604; 64572 1603 1605; 64573 1603 1609",
    "64574 1603 1610; 64575 1604 1580; 64576 1604 1581; 64577 1604 1582; 64578 1604 1605",
    "64579 1604 1609; 64580 1604 1610; 64581 1605 1580; 64582 1605 1581; 64583 1605 1582",
    "64584 1605 1605; 64585 1605 1609; 64586 1605 1610; 64587 1606 1580; 64588 1606 1581",
    "64589 1606 1582; 64590 1606 1605; 64591 1606 1609; 64592 1606 1610; 64593 1607 1580",
    "64594 1607 1605; 64595 1607 1609; 64596 1607 1610; 64597 1610 1580; 64598 1610 1581",
    "64599 1610 1582; 64600 1610 1605; 64601 1610 1609; 64602 1610 1610; 64603 1584 1648",
    "64604 1585 1648; 64605 1609 1648; 64612 1610 1620 1585; 64613 1610 1620 1586",
    "64614 1610 1620 1605; 64615 1610 1620 1606; 64616 1610 1620 1609; 64617 1610 1620 1610",
    "64618 1576 1585; 64619 1576 1586; 64620 1576 1605; 64621 1576 1606; 64622 1576 1609",
    "64623 1576 1610; 64624 1578 1585; 64625 1578 1586; 64626 1578 1605; 64627 1578 1606",
    "64628 1578 1609; 64629 1578 1610; 64630 1579 1585; 64631 1579 1586; 64632 1579 1605",
    "64633 1579 1606; 64634 1579 1609; 64635 1579 1610; 64636 1601 1609; 64637 1601 1610",
    "64638 1602 1609; 64639 1602 1610; 64640 1603 1575; 64641 1603 1604; 64642 1603 1605",
    "64643 1603 1609; 64644 1603 1610; 64645 1604 1605; 64646 1604 1609; 64647 1604 1610",
    "64648 1605 1575; 64649 1605 1605; 64650 1606 1585; 64651 1606 1586; 64652 1606 1605",
    "64653 1606 1606; 64654 1606 1609; 64655 1606 1610; 64656 1609 1648; 64657 1610 1585",
    "64658 1610 1586; 64659 1610 1605; 64660 1610 1606; 64661 1610 1609; 64662 1610 1610",
    "64663 1610 1620 1580; 64664 1610 1620 1581; 64665 1610 1620 1582; 64666 1610 1620 1605",
    "64667 1610 1620 1607; 64668 1576 1580; 64669 1576 1581; 64670 1576 1582; 64671 1576 1605",
    "64672 1576 1607; 64673 1578 1580; 64674 1578 1581; 64675 1578 1582; 64676 1578 1605",
    "64677 1578 1607; 64678 1579 1605; 64679 1580 1581; 64680 1580 1605; 64681 1581 1580",
    "64682 1581 1605; 64683 1582 1580; 64684 1582 1605; 64685 1587 1580; 64686 1587 1581",
    "64687 1587 1582; 64688 1587 1605; 64689 1589 1581; 64690 1589 1582; 64691 1589 1605",
    "64692 1590 1580; 64693 1590 1581; 64694 1590 1582; 64695 1590 1605; 64696 1591 1581",
    "64697 1592 1605; 64698 1593 1580; 64699 1593 1605; 64700 1594 1580; 64701 1594 1605",
    "64702 1601 1580; 64703 1601 1581; 64704 1601 1582; 64705 1601 1605; 64706 1602 1581",
    "64707 1602 1605; 64708 1603 1580; 64709 1603 1581; 64710 1603 1582; 64711 1603 1604",
    "64712 1603 1605; 64713 1604 1580; 64714 1604 1581; 64715 1604 1582; 64716 1604 1605",
    "64717 1604 1607; 64718 1605 1580; 64719 1605 1581; 64720 1605 1582; 64721 1605 1605",
    "64722 1606 1580; 64723 1606 1581; 64724 1606 1582; 64725 1606 1605; 64726 1606 1607",
    "64727 1607 1580; 64728 1607 1605; 64729 1607 1648; 64730 1610 1580; 64731 1610 1581",
    "64732 1610 1582; 64733 1610 1605; 64734 1610 1607; 64735 1610 1620 1605",
    "64736 1610 1620 1607; 64737 1576 1605; 64738 1576 1607; 64739 1578 1605; 64740 1578 1607",
    "64741 1579 1605; 64742 1579 1607; 64743 1587 1605; 64744 1587 1607; 64745 1588 1605",
    "64746 1588 1607; 64747 1603 1604; 64748 1603 1605; 64749 1604 1605; 64750 1606 1605",
    "64751 1606 1607; 64752 1610 1605; 64753 1610 1607; 64754 1600 1614 1617",
    "64755 1600 1615 1617; 64756 1600 1616 1617; 64757 1591 1609; 64758 1591 1610",
    "64759 1593 1609; 64760 1593 1610; 64761 1594 1609; 64762 1594 1610; 64763 1587 1609",
    "64764 1587 1610; 64765 1588 1609; 64766 1588 1610; 64767 1581 1609; 64768 1581 1610",
    "64769 1580 1609; 64770 1580 1610; 64771 1582 1609; 64772 1582 1610; 64773 1589 1609",
    "64774 1589 1610; 64775 1590 1609; 64776 1590 1610; 64777 1588 1580; 64778 1588 1581",
    "64779 1588 1582; 64780 1588 1605; 64781 1588 1585; 64782 1587 1585; 64783 1589 1585",
    "64784 1590 1585; 64785 1591 1609; 64786 1591 1610; 64787 1593 1609; 64788 1593 1610",
    "64789 1594 1609; 64790 1594 1610; 64791 1587 1609; 64792 1587 1610; 64793 1588 1609",
    "64794 1588 1610; 64795 1581 1609; 64796 1581 1610; 64797 1580 1609; 64798 1580 1610",
    "64799 1582 1609; 64800 1582 1610; 64801 1589 1609; 64802 1589 1610; 64803 1590 1609",
    "64804 1590 1610; 64805 1588 1580; 64806 1588 1581; 64807 1588 1582; 64808 1588 1605",
    "64809 1588 1585; 64810 1587 1585; 64811 1589 1585; 64812 1590 1585; 64813 1588 1580",
    "64814 1588 1581; 64815 1588 1582; 64816 1588 1605; 64817 1587 1607; 64818 1588 1607",
    "64819 1591 1605; 64820 1587 1580; 64821 1587 1581; 64822 1587 1582; 64823 1588 1580",
    "64824 1588 1581; 64825 1588 1582; 64826 1591 1605; 64827 1592 1605; 64828 1575 1611",
    "64829 1575 1611; 64848 1578 1580 1605; 64849 1578 1581 1580; 64850 1578 1581 1580",
    "64851 1578 1581 1605; 64852 1578 1582 1605; 64853 1578 1605 1580; 64854 1578 1605 1581",
    "64855 1578 1605 1582; 64856 1580 1605 1581; 64857 1580 1605 1581; 64858 1581 1605 1610",
    "64859 1581 1605 1609; 64860 1587 1581 1580; 64861 1587 1580 1581; 64862 1587 1580 1609",
    "64863 1587 1605 1581; 64864 1587 1605 1581; 64865 1587 1605 1580; 64866 1587 1605 1605",
    "64867 1587 1605 1605; 64868 1589 1581 1581; 64869 1589 1581 1581; 64870 1589 1605 1605",
    "64871 1588 1581 1605; 64872 1588 1581 1605; 64873 1588 1580 1610; 64874 1588 1605 1582",
    "64875 1588 1605 1582; 64876 1588 1605 1605; 64877 1588 1605 1605; 64878 1590 1581 1609",
    "64879 1590 1582 1605; 64880 1590 1582 1605; 64881 1591 1605 1581; 64882 1591 1605 1581",
    "64883 1591 1605 1605; 64884 1591 1605 1610; 64885 1593 1580 1605; 64886 1593 1605 1605",
    "64887 1593 1605 1605; 64888 1593 1605 1609; 64889 1594 1605 1605; 64890 1594 1605 1610",
    "64891 1594 1605 1609; 64892 1601 1582 1605; 64893 1601 1582 1605; 64894 1602 1605 1581",
    "64895 1602 1605 1605; 64896 1604 1581 1605; 64897 1604 1581 1610; 64898 1604 1581 1609",
    "64899 1604 1580 1580; 64900 1604 1580 1580; 64901 1604 1582 1605; 64902 1604 1582 1605",
    "64903 1604 1605 1581; 64904 1604 1605 1581; 64905 1605 1581 1580; 64906 1605 1581 1605",
    "64907 1605 1581 1610; 64908 1605 1580 1581; 64909 1605 1580 1605; 64910 1605 1582 1580",
    "64911 1605 1582 1605; 64914 1605 1580 1582; 64915 1607 1605 1580; 64916 1607 1605 1605",
    "64917 1606 1581 1605; 64918 1606 1581 1609; 64919 1606 1580 1605; 64920 1606 1580 1605",
    "64921 1606 1580 1609; 64922 1606 1605 1610; 64923 1606 1605 1609; 64924 1610 1605 1605",
    "64925 1610 1605 1605; 64926 1576 1582 1610; 64927 1578 1580 1610; 64928 1578 1580 1609",
    "64929 1578 1582 1610; 64930 1578 1582 1609; 64931 1578 1605 1610; 64932 1578 1605 1609",
    "64933 1580 1605 1610; 64934 1580 1581 1609; 64935 1580 1605 1609; 64936 1587 1582 1609",
    "64937 1589 1581 1610; 64938 1588 1581 1610; 64939 1590 1581 1610; 64940 1604 1580 1610",
    "64941 1604 1605 1610; 64942 1610 1581 1610; 64943 1610 1580 1610; 64944 1610 1605 1610",
    "64945 1605 1605 1610; 64946 1602 1605 1610; 64947 1606 1581 1610; 64948 1602 1605 1581",
    "64949 1604 1581 1605; 64950 1593 1605 1610; 64951 1603 1605 1610; 64952 1606 1580 1581",
    "64953 1605 1582 1610; 64954 1604 1580 1605; 64955 1603 1605 1605; 64956 1604 1580 1605",
    "64957 1606 1580 1581; 64958 1580 1581 1610; 64959 1581 1580 1610; 64960 1605 1580 1610",
    "64961 1601 1605 1610; 64962 1576 1581 1610; 64963 1603 1605 1605; 64964 1593 1580 1605",
    "64965 1589 1605 1605; 64966 1587 1582 1610; 64967 1606 1580 1610; 65008 1589 1604 1746",
    "65009 1602 1604 1746; 65010 1575 1604 1604 1607; 65011 1575 1603 1576 1585",
    "65012 1605 1581 1605 1583; 65013 1589 1604 1593 1605; 65014 1585 1587 1608 1604",
    "65015 1593 1604 1610 1607; 65016 1608 1587 1604 1605; 65017 1589 1604 1609",
    "65137 1600 1611; 65143 1600 1614; 65145 1600 1615; 65147 1600 1616; 65149 1600 1617",
    "65151 1600 1618; 65153 1575 1619; 65154 1575 1619; 65155 1575 1620; 65156 1575 1620",
    "65157 1608 1620; 65158 1608 1620; 65159 1575 1621; 65160 1575 1621; 65161 1610 1620",
    "65162 1610 1620; 65163 1610 1620; 65164 1610 1620; 65269 1604 1575 1619",
    "65270 1604 1575 1619; 65271 1604 1575 1620; 65272 1604 1575 1620; 65273 1604 1575 1621",
    "65274 1604 1575 1621; 65275 1604 1575; 65276 1604 1575; 69786 69785 69818",
    "69788 69787 69818; 69803 69797 69818; 69934 69937 69927; 69935 69938 69927",
    "70475 70471 70462; 70476 70471 70487; 70843 70841 70842; 70844 70841 70832",
    "70846 70841 70845; 71098 71096 71087; 71099 71097 71087; 71992 71989 71984"]

/-- The jamo of a precomposed syllable with the given number among all syllables. -/
private def syllable (index : Nat) : List Nat :=
  let leading := 0x1100 + index / 588
  let vowel := 0x1161 + index % 588 / 28
  let trailing := 0x11a7 + index % 28
  if index % 28 = 0 then [leading, vowel] else [leading, vowel, trailing]

/-- The full compatibility decomposition of a code point. -/
def decomposition (code : Nat) : List Nat :=
  if code < 128 then [code]
  else if 0xac00 ≤ code ∧ code < 0xac00 + 11172 then syllable (code - 0xac00)
  else
    match Table.image? singleDecompositions code with
    | some target => [target]
    | none =>
        match longDecompositions.find? fun row => row.head? == some code with
        | some row => row.drop 1
        | none => [code]

end LiveGrid.Text.Compatibility
